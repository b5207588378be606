import IntcodeMachine.Proofs.Semantics.Supply
import Mathlib.Tactic.ByContra

/-
  This file shows that steps do not depend on when the
  inputs are supplied.

  Steps from a configuration are steps from it with more
  inputs. Steps from a configuration with more inputs are
  steps from the configuration itself, up to their end or up
  to where it starves; from there they go on once the inputs
  are supplied.

  Main declarations:
    * `Config.Starving`
    * `Config.decodes_supply_iff`
    * `Config.Steps.supply`
    * `Config.Steps.split_supply`
    * `Config.fault_of_supply`
-/

------------------------------------------------------------
-- Starving Configurations
------------------------------------------------------------

namespace IntcodeMachine

namespace Semantics

namespace Config

/- An input is to be taken, and none is left. -/
structure Starving (c : Config) : Prop where
  decodes : c.Decodes .input
  empty : c.inputs = []

theorem starving_iff
    (c : Config) :
    c.Starving ↔ ∃ f, c.firstFault = some f ∧ f.Starves := by
  simp only [starves_iff]
  constructor
  · intro hParts
    rcases hParts with ⟨hDecodes, hEmpty⟩
    exact ⟨_, hDecodes, hEmpty, rfl⟩
  · intro hParts
    rcases hParts with ⟨f, hDecodes, hEmpty, -⟩
    exact ⟨hDecodes, hEmpty⟩

/- A configuration that starves has no step. -/
theorem Starving.not_step
    {c c' : Config}
    (hStarving : c.Starving) :
    ¬ c.Step c' := by
  rcases (starving_iff c).mp hStarving with ⟨f, hFault, -⟩
  exact ((stuck_iff c).mpr ⟨f, hFault⟩).2 c'

theorem Starving.eq_of_steps
    {n : Nat}
    {c c' : Config}
    (hStarving : c.Starving)
    (hSteps : Steps n c c') :
    n = 0 ∧ c' = c := by
  cases hSteps with
  | here => exact ⟨rfl, rfl⟩
  | next hStep hRest => exact absurd hStep hStarving.not_step

------------------------------------------------------------
-- Inputs That Are Supplied Later
------------------------------------------------------------

theorem decodes_supply_iff
    (c : Config)
    (more : List Int)
    (op : Op) :
    (c.supply more).Decodes op ↔ c.Decodes op := by
  rw [decodes_iff, decodes_iff, decodingChecks_supply,
    supply_op?]

/- A halt does not depend on the inputs. -/
theorem halts_supply_iff
    (c : Config)
    (more : List Int) :
    (c.supply more).Halts ↔ c.Halts :=
  decodes_supply_iff c more .halt

/- Steps are taken with more inputs, too, and leave them. -/
theorem Steps.supply
    {n : Nat}
    {c c' : Config}
    (hSteps : Steps n c c')
    (more : List Int) :
    Steps n (c.supply more) (c'.supply more) := by
  induction hSteps with
  | here c => exact Steps.here _
  | next hStep _ ih =>
      rcases hStep.ready with ⟨op, hReady, hGoes, rfl⟩
      refine Steps.next ?_ ih
      rw [← effect_supply hReady]
      exact (hReady.supply more).step hGoes

/- A fault of a supplied configuration is there before. -/
theorem fault_of_supply
    {c : Config}
    {more : List Int}
    {f : Fault}
    (hFault : (c.supply more).firstFault = some f) :
    c.Starving ∨ ¬ f.Starves ∧ c.firstFault = some f := by
  rcases c.fault_or_ready with ⟨g, hBefore⟩ | ⟨op, hReady⟩
  · by_cases hStarves : g.Starves
    · exact
        Or.inl ((starving_iff c).mpr ⟨g, hBefore, hStarves⟩)
    · have hAfter := firstFault_supply hBefore hStarves more
      rw [hFault, Option.some.injEq] at hAfter
      subst g
      exact Or.inr ⟨hStarves, hBefore⟩
  · have hNone := (hReady.supply more).1
    rw [hFault] at hNone
    simp at hNone

/-
  The steps of a supplied configuration are steps of the
  configuration, to their end or to where it starves.
-/
theorem Steps.split_supply
    {n : Nat}
    {c c' : Config}
    {more : List Int}
    (hSteps : Steps n (c.supply more) c') :
    (∃ d, Steps n c d ∧ c' = d.supply more) ∨
      ∃ i j d, n = i + j ∧ Steps i c d ∧ d.Starving ∧
        Steps j (d.supply more) c' := by
  induction n generalizing c with
  | zero =>
      cases hSteps
      exact Or.inl ⟨c, Steps.here c, rfl⟩
  | succ n ih =>
      cases hSteps with
      | next hStep hRest =>
          rename_i c₁
          rcases hStep.ready with ⟨op, hReady, hGoes, hEffect⟩
          rcases c.fault_or_ready with
            ⟨f, hFault⟩ | ⟨op', hBefore⟩
          · -- Only an input that is missing can be supplied.
            have hStarves : f.Starves := by
              by_contra hFed
              have hAfter := firstFault_supply hFault hFed more
              rw [hReady.1] at hAfter
              simp at hAfter
            refine
              Or.inr
                ⟨0, n + 1, c, by omega, Steps.here c, ?_,
                  Steps.next hStep hRest⟩
            exact (starving_iff c).mpr ⟨f, hFault, hStarves⟩
          · have hSame : op' = op :=
              (hBefore.supply more).unique hReady
            subst hSame
            rw [effect_supply hBefore] at hEffect
            subst hEffect
            have hFirst := hBefore.step hGoes
            rcases ih hRest with
              ⟨d, hSteps, hEnd⟩ |
                ⟨i, j, d, hCount, hSteps, hStarving, hLast⟩
            · exact Or.inl ⟨d, Steps.next hFirst hSteps, hEnd⟩
            · exact
                Or.inr
                  ⟨i + 1, j, d, by omega,
                    Steps.next hFirst hSteps, hStarving,
                    hLast⟩

------------------------------------------------------------
-- The Size Of The Memory
------------------------------------------------------------

theorem length_effect
    (c : Config)
    (op : Op) :
    (c.effect op).memory.length = c.memory.length := by
  cases op with
  | calculate f => simp [effect, stored]
  | input => simp [effect, stored]
  | output => rfl
  | halt => rfl
  | jump t =>
      simp only [effect]
      split
      · rfl
      · rfl

/- The memory neither grows nor shrinks. -/
theorem Steps.length_memory
    {n : Nat}
    {c c' : Config}
    (hSteps : Steps n c c') :
    c'.memory.length = c.memory.length := by
  induction hSteps with
  | here c => rfl
  | next hStep _ ih =>
      rcases hStep.ready with ⟨op, -, -, rfl⟩
      rw [ih, length_effect]

end Config

end Semantics

end IntcodeMachine
