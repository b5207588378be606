import IntcodeMachine.Proofs.Semantics.Checks

/-
  This file compares a configuration with the one that has
  more inputs left.

  Inputs that are not taken yet do not show: an instruction
  does the same and fails alike, unless it takes an input
  when none is left. Such a configuration starves, and the
  fault it makes is made by nothing else.

  Main declarations:
    * `Fault.Starves`
    * `Config.supply`
    * `Config.starves_iff`
    * `Config.firstFault_supply`
    * `Config.Ready.supply`
    * `Config.effect_supply`
-/

------------------------------------------------------------
-- Starving
------------------------------------------------------------

namespace IntcodeMachine

/- The fault is that no input is left. -/
def Fault.Starves : Fault → Prop
| .inputExhausted _ => True
| _ => False

namespace Semantics

namespace Config

theorem mem_of_first_eq_some
    {xs : List (Option Fault)}
    {f : Fault}
    (hFirst : first xs = some f) :
    some f ∈ xs := by
  rcases List.exists_of_findSome?_eq_some hFirst with
    ⟨x, hMember, hx⟩
  rw [← show x = some f from hx]
  exact hMember

theorem boundsFault_not_starves
    {c : Config}
    {address : Int}
    {f : Fault}
    (hFault : c.boundsFault address = some f) :
    ¬ f.Starves := by
  unfold boundsFault at hFault
  split at hFault
  · simp at hFault
  · simp only [Option.some.injEq] at hFault
    subst f
    exact id

theorem operandFault_not_starves
    {c : Config}
    {p : Nat}
    {f : Fault}
    (hFault : c.operandFault p = some f) :
    ¬ f.Starves := by
  unfold operandFault at hFault
  split at hFault
  · simp at hFault
  · exact boundsFault_not_starves hFault

theorem immediateFault_not_starves
    {c : Config}
    {p : Nat}
    {f : Fault}
    (hFault : c.immediateFault p = some f) :
    ¬ f.Starves := by
  unfold immediateFault at hFault
  split at hFault
  · simp only [Option.some.injEq] at hFault
    subst f
    exact id
  · simp at hFault

/- Before an instruction is executed, nothing starves. -/
theorem decoding_not_starves
    {c : Config}
    {f : Fault}
    (hFault : first c.decodingChecks = some f) :
    ¬ f.Starves := by
  have hMember := mem_of_first_eq_some hFault
  simp only [decodingChecks, List.mem_append, List.mem_cons,
    List.not_mem_nil, or_false] at hMember
  rcases hMember with (hBound | hSign | hOpcode) | hParameter
  · exact boundsFault_not_starves hBound.symm
  · unfold signFault at hSign
    split at hSign
    · simp only [Option.some.injEq] at hSign
      subst f
      exact id
    · simp at hSign
  · unfold opcodeFault at hOpcode
    split at hOpcode
    · simp at hOpcode
    · simp only [Option.some.injEq] at hOpcode
      subst f
      exact id
  · cases hOp : c.op? with
    | none => simp [hOp] at hParameter
    | some op =>
        simp only [hOp, parameterChecks, List.mem_append,
          List.mem_map] at hParameter
        rcases hParameter with ⟨p, -, hMode⟩ | ⟨p, -, hCell⟩
        · unfold modeFault at hMode
          split at hMode
          · simp at hMode
          · simp only [Option.some.injEq] at hMode
            subst f
            exact id
        · exact boundsFault_not_starves hCell

/- Of the operations, only taking an input starves. -/
theorem operation_starves
    {c : Config}
    {op : Op}
    {f : Fault}
    (hFault : first (c.operationChecks op) = some f)
    (hStarves : f.Starves) :
    op = .input ∧ c.inputs = [] ∧
      f = .inputExhausted c.taken := by
  have hMember := mem_of_first_eq_some hFault
  cases op with
  | calculate g =>
      simp only [operationChecks, List.mem_cons,
        List.not_mem_nil, or_false] at hMember
      rcases hMember with hRead | hRead | hWrite | hWrite
      · exact
          absurd hStarves (operandFault_not_starves hRead.symm)
      · exact
          absurd hStarves (operandFault_not_starves hRead.symm)
      · exact
          absurd hStarves
            (immediateFault_not_starves hWrite.symm)
      · exact
          absurd hStarves (boundsFault_not_starves hWrite.symm)
  | jump t =>
      simp only [operationChecks, List.mem_cons] at hMember
      rcases hMember with hRead | hTaken
      · exact
          absurd hStarves (operandFault_not_starves hRead.symm)
      · split at hTaken
        · simp only [List.mem_cons, List.not_mem_nil,
            or_false] at hTaken
          rcases hTaken with hRead | hJump
          · exact
              absurd hStarves
                (operandFault_not_starves hRead.symm)
          · exact
              absurd hStarves
                (boundsFault_not_starves hJump.symm)
        · simp at hTaken
  | input =>
      simp only [operationChecks, List.mem_cons,
        List.not_mem_nil, or_false] at hMember
      rcases hMember with hInput | hWrite | hWrite
      · unfold inputFault at hInput
        split at hInput
        · rename_i hEmpty
          exact ⟨rfl, hEmpty, Option.some.inj hInput⟩
        · simp at hInput
      · exact
          absurd hStarves
            (immediateFault_not_starves hWrite.symm)
      · exact
          absurd hStarves (boundsFault_not_starves hWrite.symm)
  | output =>
      simp only [operationChecks, List.mem_cons,
        List.not_mem_nil, or_false] at hMember
      exact
        absurd hStarves (operandFault_not_starves hMember.symm)
  | halt => simp [operationChecks] at hMember

/-
  A configuration starves when it has decoded an input and
  no input is left.
-/
theorem starves_iff
    (c : Config)
    (f : Fault) :
    c.firstFault = some f ∧ f.Starves ↔
      c.Decodes .input ∧ c.inputs = [] ∧
        f = .inputExhausted c.taken := by
  rw [decodes_iff, firstFault, checks, first_append]
  constructor
  · intro hParts
    rcases hParts with ⟨hFault, hStarves⟩
    cases hDecodes : first c.decodingChecks with
    | some g =>
        rw [hDecodes, Option.some_or, Option.some.injEq]
          at hFault
        subst g
        exact absurd hStarves (decoding_not_starves hDecodes)
    | none =>
        rw [hDecodes, Option.none_or] at hFault
        cases hOp : c.op? with
        | none => simp [executionChecks, hOp] at hFault
        | some op =>
            simp only [executionChecks, hOp] at hFault
            rcases operation_starves hFault hStarves with
              ⟨rfl, hEmpty, hName⟩
            exact ⟨⟨rfl, rfl⟩, hEmpty, hName⟩
  · intro hParts
    rcases hParts with ⟨⟨hDecodes, hOp⟩, hEmpty, rfl⟩
    refine ⟨?_, trivial⟩
    simp [hDecodes, executionChecks, hOp, operationChecks,
      inputFault, hEmpty]

------------------------------------------------------------
-- Supplying More Inputs
------------------------------------------------------------

/- The configuration with more inputs behind those it has. -/
def supply
    (c : Config)
    (more : List Int) : Config :=
  { c with inputs := c.inputs ++ more }

@[simp] theorem supply_inputs
    (c : Config)
    (more : List Int) :
    (c.supply more).inputs = c.inputs ++ more := rfl

@[simp] theorem supply_op?
    (c : Config)
    (more : List Int) :
    (c.supply more).op? = c.op? := rfl

theorem supply_supply
    (c : Config)
    (xs ys : List Int) :
    (c.supply xs).supply ys = c.supply (xs ++ ys) := by
  simp [supply]

@[simp] theorem supply_nil
    (c : Config) :
    c.supply [] = c := by
  simp [supply]

theorem decodingChecks_supply
    (c : Config)
    (more : List Int) :
    (c.supply more).decodingChecks = c.decodingChecks := rfl

theorem operationChecks_supply
    {c : Config}
    {op : Op}
    (hInputs : op = .input → c.inputs ≠ [])
    (more : List Int) :
    (c.supply more).operationChecks op =
      c.operationChecks op := by
  cases op with
  | calculate f => rfl
  | jump t => rfl
  | output => rfl
  | halt => rfl
  | input =>
      have hFault :
          (c.supply more).inputFault = c.inputFault := by
        cases hLeft : c.inputs with
        | nil => exact absurd hLeft (hInputs rfl)
        | cons n rest =>
            simp only [inputFault, supply_inputs, hLeft,
              List.cons_append]
      simp only [operationChecks, hFault]
      rfl

/- A fault stays when inputs are supplied, unless it starves. -/
theorem firstFault_supply
    {c : Config}
    {f : Fault}
    (hFault : c.firstFault = some f)
    (hFed : ¬ f.Starves)
    (more : List Int) :
    (c.supply more).firstFault = some f := by
  rw [firstFault, checks, first_append] at hFault ⊢
  rw [decodingChecks_supply]
  cases hDecodes : first c.decodingChecks with
  | some g =>
      rw [hDecodes, Option.some_or] at hFault
      rw [Option.some_or]
      exact hFault
  | none =>
      rw [hDecodes, Option.none_or] at hFault
      rw [Option.none_or]
      cases hOp : c.op? with
      | none => simp [executionChecks, hOp] at hFault
      | some op =>
          simp only [executionChecks, hOp, supply_op?]
            at hFault ⊢
          rw [operationChecks_supply ?_ more]
          · exact hFault
          · rintro rfl hEmpty
            simp only [operationChecks, inputFault, hEmpty,
              first_cons, Option.some_or, Option.some.injEq]
              at hFault
            subst f
            exact hFed trivial

/- An instruction that takes an input is ready only with one. -/
theorem Ready.inputs_ne_nil
    {c : Config}
    (hReady : c.Ready .input) :
    c.inputs ≠ [] := by
  intro hEmpty
  have hPasses := ((ready_iff c _).mp hReady).2
  simp [operationChecks, inputFault, hEmpty] at hPasses

theorem Ready.supply
    {c : Config}
    {op : Op}
    (hReady : c.Ready op)
    (more : List Int) :
    (c.supply more).Ready op := by
  have hParts := (ready_iff c op).mp hReady
  rw [ready_iff, decodes_iff, decodingChecks_supply,
    supply_op?, ← decodes_iff c op,
    operationChecks_supply ?_ more]
  · exact hParts
  · rintro rfl
    exact hReady.inputs_ne_nil

/- An instruction that is ready does the same with more inputs. -/
theorem effect_supply
    {c : Config}
    {op : Op}
    (hReady : c.Ready op)
    (more : List Int) :
    (c.supply more).effect op = (c.effect op).supply more := by
  cases op with
  | calculate f => rfl
  | output => rfl
  | halt => rfl
  | jump t =>
      simp only [effect]
      have hValue (p : Nat) :
          (c.supply more).value p = c.value p := rfl
      rw [hValue 0, hValue 1]
      split
      · rfl
      · rfl
  | input =>
      cases hLeft : c.inputs with
      | nil => exact absurd hLeft hReady.inputs_ne_nil
      | cons n rest =>
          simp only [effect, supply, stored, hLeft,
            List.cons_append, List.headD_cons, List.tail_cons]
          rfl

end Config

end Semantics

end IntcodeMachine
