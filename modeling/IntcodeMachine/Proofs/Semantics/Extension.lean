import IntcodeMachine.Proofs.Semantics.Checks
import Mathlib.Data.List.GetD

/-
  This file compares a configuration with the one that has
  more cells behind its memory.

  A check that passes also passes on the larger memory, and
  one that fails makes the same fault there, unless it finds
  an address outside the memory. An instruction that is
  ready does the same, and leaves the cells behind alone.

  Main declarations:
    * `Fault.Overruns`
    * `Config.extend`
    * `Config.Persists`
    * `Config.firstFault_persists`
    * `Config.effect_extend`
    * `Config.Steps.extend`
-/

------------------------------------------------------------
-- Overruns
------------------------------------------------------------

namespace IntcodeMachine

/- The fault is an address outside the memory. -/
def Fault.Overruns : Fault → Prop
| .outOfBounds _ _ => True
| _ => False

namespace Semantics

namespace Config

/-
  The second check finds what the first one finds, unless
  that is an address outside the memory.
-/
def Persists (x y : Option Fault) : Prop :=
  x = y ∨ ∃ f, x = some f ∧ f.Overruns

theorem Persists.of_eq
    {x y : Option Fault}
    (hSame : y = x) :
    Persists x y :=
  Or.inl hSame.symm

theorem Persists.eq_none
    {x y : Option Fault}
    (hPersists : Persists x y)
    (hNone : x = none) :
    y = none := by
  rcases hPersists with rfl | ⟨f, hFault, -⟩
  · exact hNone
  · rw [hNone] at hFault
    simp at hFault

theorem Persists.eq_some
    {x y : Option Fault}
    {f : Fault}
    (hPersists : Persists x y)
    (hFault : x = some f)
    (hInside : ¬ f.Overruns) :
    y = some f := by
  rcases hPersists with rfl | ⟨g, hOther, hOverruns⟩
  · exact hFault
  · rw [hFault, Option.some.injEq] at hOther
    subst g
    exact absurd hOverruns hInside

/-
  Two checks in a row persist if the second one does when
  the first one passes.
-/
theorem Persists.or
    {x x' y y' : Option Fault}
    (hFirst : Persists x y)
    (hSecond : x = none → Persists x' y') :
    Persists (x.or x') (y.or y') := by
  rcases hFirst with rfl | ⟨f, rfl, hOverruns⟩
  · cases x with
    | none => exact hSecond rfl
    | some f => exact Or.inl rfl
  · exact Or.inr ⟨f, rfl, hOverruns⟩

theorem Persists.first_map
    {checks checks' : Nat → Option Fault}
    (hChecks : ∀ p, Persists (checks p) (checks' p))
    (ps : List Nat) :
    Persists (first (ps.map checks))
      (first (ps.map checks')) := by
  induction ps with
  | nil => exact Or.inl rfl
  | cons p rest ih =>
      rw [List.map_cons, List.map_cons, first_cons,
        first_cons]
      exact (hChecks p).or fun _ => ih

------------------------------------------------------------
-- More Cells
------------------------------------------------------------

/- The configuration with more cells behind its memory. -/
def extend
    (c : Config)
    (more : List Int) : Config :=
  { c with memory := c.memory ++ more }

section

variable {c : Config} {op : Op} {p : Nat}
variable (more : List Int)

theorem getD_extend
    {address : Nat}
    (hCell : address < c.memory.length) :
    (c.extend more).memory.getD address 0 =
      c.memory.getD address 0 :=
  List.getD_append _ _ _ _ hCell

theorem word_extend
    (hCounter : c.pc < c.memory.length) :
    (c.extend more).word = c.word :=
  getD_extend more hCounter

theorem op?_extend
    (hCounter : c.pc < c.memory.length) :
    (c.extend more).op? = c.op? := by
  rw [op?, number, word_extend more hCounter]
  rfl

theorem modeDigit_extend
    (hCounter : c.pc < c.memory.length) :
    (c.extend more).modeDigit p = c.modeDigit p := by
  rw [modeDigit, word_extend more hCounter]
  rfl

theorem raw_extend
    (hDecodes : c.Decodes op)
    (hp : p < op.arity) :
    (c.extend more).raw p = c.raw p := by
  have hEnd := hDecodes.parameters
  have hCell : c.pc + 1 + p < c.memory.length := by omega
  exact getD_extend more hCell

/- An operand that can be read is the same. -/
theorem value_extend
    (hDecodes : c.Decodes op)
    (hp : p < op.arity)
    (hPasses : c.operandFault p = none) :
    (c.extend more).value p = c.value p := by
  unfold value
  rw [modeDigit_extend more hDecodes.counter,
    raw_extend more hDecodes hp]
  by_cases hOne : c.modeDigit p = 1
  · rw [if_pos hOne, if_pos hOne]
  · rw [if_neg hOne, if_neg hOne]
    rw [operandFault, if_neg hOne, boundsFault_eq_none_iff]
      at hPasses
    exact getD_extend more (by omega)

------------------------------------------------------------
-- Checks On More Cells
------------------------------------------------------------

theorem boundsFault_persists
    (address : Int) :
    Persists (c.boundsFault address)
      ((c.extend more).boundsFault address) := by
  by_cases hCell : 0 ≤ address ∧ address < c.memory.length
  · refine Persists.of_eq ?_
    rw [(boundsFault_eq_none_iff c address).mpr hCell,
      boundsFault_eq_none_iff, extend, List.length_append]
    omega
  · exact Or.inr ⟨_, if_neg hCell, trivial⟩

theorem operandFault_persists
    (hDecodes : c.Decodes op)
    (hp : p < op.arity) :
    Persists (c.operandFault p)
      ((c.extend more).operandFault p) := by
  unfold operandFault
  rw [modeDigit_extend more hDecodes.counter,
    raw_extend more hDecodes hp]
  split
  · exact Persists.of_eq rfl
  · exact boundsFault_persists more _

theorem immediateFault_extend
    (hDecodes : c.Decodes op) :
    (c.extend more).immediateFault p = c.immediateFault p := by
  unfold immediateFault
  rw [modeDigit_extend more hDecodes.counter]
  rfl

/- The checks of writing through a parameter persist. -/
theorem target_persists
    (hDecodes : c.Decodes op)
    (hp : p < op.arity) :
    Persists
      ((c.immediateFault p).or (c.boundsFault (c.raw p)))
      (((c.extend more).immediateFault p).or
        ((c.extend more).boundsFault
          ((c.extend more).raw p))) := by
  rw [immediateFault_extend more hDecodes,
    raw_extend more hDecodes hp]
  exact
    (Persists.of_eq rfl).or fun _ =>
      boundsFault_persists more _

/- So do those before an instruction is executed. -/
theorem decodingChecks_persist
    (c : Config)
    (more : List Int) :
    Persists (first c.decodingChecks)
      (first (c.extend more).decodingChecks) := by
  simp only [decodingChecks, first_append, first_cons,
    first_nil, Option.or_none, Option.or_assoc]
  refine
    (boundsFault_persists more c.pc).or fun hCounter => ?_
  have hCell : c.pc < c.memory.length := by
    have hInside :=
      (boundsFault_eq_none_iff c c.pc).mp hCounter
    omega
  -- From here on, both words are the same.
  have hWord := word_extend more hCell
  have hOp := op?_extend more hCell
  refine (Persists.of_eq ?_).or fun _ => ?_
  · rw [signFault, hWord]
    rfl
  refine (Persists.of_eq ?_).or fun _ => ?_
  · rw [opcodeFault, hOp, number, hWord]
    rfl
  rw [hOp]
  cases c.op? with
  | none => exact Persists.of_eq rfl
  | some op =>
      simp only [parameterChecks, first_append]
      have hModes (q : Nat) :
          Persists (c.modeFault q)
            ((c.extend more).modeFault q) := by
        refine Persists.of_eq ?_
        rw [modeFault, modeDigit_extend more hCell]
        rfl
      exact
        (Persists.first_map hModes _).or fun _ =>
          Persists.first_map
            (fun q => boundsFault_persists more _) _

/- So do those of the instruction itself. -/
theorem operationChecks_persist
    (hDecodes : c.Decodes op)
    (more : List Int) :
    Persists (first (c.operationChecks op))
      (first ((c.extend more).operationChecks op)) := by
  cases op with
  | halt => exact Persists.of_eq rfl
  | output =>
      simp only [operationChecks, first_cons, first_nil,
        Option.or_none]
      exact
        operandFault_persists more hDecodes
          (show 0 < 1 by decide)
  | input =>
      simp only [operationChecks, first_cons, first_nil,
        Option.or_none]
      exact
        (Persists.of_eq rfl).or fun _ =>
          target_persists more hDecodes (show 0 < 1 by decide)
  | calculate f =>
      have hRead (q : Nat) (hq : q < 3) :=
        operandFault_persists more (p := q) hDecodes hq
      simp only [operationChecks, first_cons, first_nil,
        Option.or_none]
      exact
        (hRead 0 (by decide)).or fun _ =>
          (hRead 1 (by decide)).or fun _ =>
            target_persists more hDecodes
              (show 2 < 3 by decide)
  | jump t =>
      have hRead (q : Nat) (hq : q < 2) :=
        operandFault_persists more (p := q) hDecodes hq
      have hValue (q : Nat) (hq : q < 2) :=
        value_extend more (p := q) hDecodes hq
      rw [operationChecks, operationChecks, first_cons,
        first_cons]
      refine (hRead 0 (by decide)).or fun hFirst => ?_
      rw [hValue 0 (by decide) hFirst]
      split
      · simp only [first_cons, first_nil, Option.or_none]
        refine (hRead 1 (by decide)).or fun hSecond => ?_
        rw [hValue 1 (by decide) hSecond]
        exact boundsFault_persists more _
      · exact Persists.of_eq rfl

/- The first fault persists. -/
theorem firstFault_persists
    (c : Config)
    (more : List Int) :
    Persists c.firstFault (c.extend more).firstFault := by
  rw [firstFault, firstFault, checks, checks, first_append,
    first_append]
  refine (c.decodingChecks_persist more).or fun hDecoded => ?_
  unfold executionChecks
  cases hOp : c.op? with
  | none =>
      -- A missing instruction does not decode.
      simp [decodingChecks, opcodeFault, hOp] at hDecoded
  | some op =>
      have hDecodes := (decodes_iff c op).mpr ⟨hDecoded, hOp⟩
      rw [op?_extend more hDecodes.counter, hOp]
      exact operationChecks_persist hDecodes more

------------------------------------------------------------
-- Instructions On More Cells
------------------------------------------------------------

theorem Ready.extend
    (hReady : c.Ready op)
    (more : List Int) :
    (c.extend more).Ready op := by
  have hCounter := ((ready_iff c op).mp hReady).1.counter
  refine
    ⟨(c.firstFault_persists more).eq_none hReady.1, ?_⟩
  rw [op?_extend more hCounter]
  exact hReady.2

theorem stored_extend
    (hDecodes : c.Decodes op)
    (hp : p < op.arity)
    (hTarget : c.boundsFault (c.raw p) = none)
    (n : Int)
    (length : Nat) :
    (c.extend more).stored p n length =
      (c.stored p n length).extend more := by
  rw [boundsFault_eq_none_iff] at hTarget
  rw [stored, raw_extend more hDecodes hp]
  simp only [stored, Config.extend]
  rw [List.set_append_left _ _ (by omega)]

/- An instruction that is ready does the same on more cells. -/
theorem effect_extend
    (hReady : c.Ready op)
    (more : List Int) :
    (c.extend more).effect op = (c.effect op).extend more := by
  rcases (ready_iff c op).mp hReady with ⟨hDecodes, hPasses⟩
  have hValue (p : Nat) (hp : p < op.arity) :=
    value_extend more hDecodes hp
  have hStored (p : Nat) (hp : p < op.arity) :=
    stored_extend more hDecodes hp
  cases op with
  | halt => rfl
  | output =>
      simp only [operationChecks, first_cons, first_nil,
        Option.or_none] at hPasses
      simp only [effect, hValue 0 (show 0 < 1 by decide) hPasses]
      rfl
  | input =>
      simp only [operationChecks, first_cons, first_nil,
        Option.or_none, Option.or_eq_none_iff] at hPasses
      simp only [effect,
        hStored 0 (show 0 < 1 by decide) hPasses.2.2]
      rfl
  | calculate f =>
      simp only [operationChecks, first_cons, first_nil,
        Option.or_none, Option.or_eq_none_iff] at hPasses
      rcases hPasses with ⟨hFirst, hSecond, -, hTarget⟩
      rw [effect, hValue 0 (show 0 < 3 by decide) hFirst,
        hValue 1 (show 1 < 3 by decide) hSecond,
        hStored 2 (show 2 < 3 by decide) hTarget]
      rfl
  | jump t =>
      simp only [operationChecks, first_cons,
        Option.or_eq_none_iff] at hPasses
      rcases hPasses with ⟨hFirst, hJump⟩
      simp only [effect]
      rw [hValue 0 (show 0 < 2 by decide) hFirst]
      by_cases hHolds : t.Holds (c.value 0)
      · rw [if_pos hHolds] at hJump
        simp only [first_cons, Option.or_eq_none_iff] at hJump
        rw [if_pos hHolds, if_pos hHolds,
          hValue 1 (show 1 < 2 by decide) hJump.1]
        rfl
      · rw [if_neg hHolds, if_neg hHolds]
        rfl

theorem Step.extend
    {c' : Config}
    (hStep : c.Step c')
    (more : List Int) :
    (c.extend more).Step (c'.extend more) := by
  rcases hStep.ready with ⟨op, hReady, hGoes, rfl⟩
  rw [← effect_extend hReady more]
  exact (hReady.extend more).step hGoes

theorem Halts.extend
    (hHalts : c.Halts)
    (more : List Int) :
    (c.extend more).Halts :=
  (halts_iff _).mpr (((halts_iff c).mp hHalts).extend more)

/- Steps are taken with more cells, too, and leave them. -/
theorem Steps.extend
    {n : Nat}
    {c' : Config}
    (hSteps : Steps n c c')
    (more : List Int) :
    Steps n (c.extend more) (c'.extend more) := by
  induction hSteps with
  | here c => exact Steps.here _
  | next hStep _ ih => exact Steps.next (hStep.extend more) ih

end

end Config

end Semantics

end IntcodeMachine
