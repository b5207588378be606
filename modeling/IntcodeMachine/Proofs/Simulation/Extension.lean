import IntcodeMachine.Proofs.Semantics.Extension
import IntcodeMachine.Proofs.Simulation.Causality

/-
  This file proves that a program cannot see cells behind
  its tape, unless it asks for their addresses.

  A program is run as it is, and with more cells behind it.
  If the first run halts, the second one halts alike, and the
  cells behind are as they were. If the first run raises a
  fault that is not about an address outside the tape, the
  second one raises the same.

  Main declarations:
    * `Rig.Extends`
    * `Rig.extended_halts`
    * `Rig.extended_raises`
    * `Rig.extension_framed`
-/

------------------------------------------------------------
-- Rigs On Longer Tapes
------------------------------------------------------------

namespace IntcodeMachine

open Semantics

namespace Rig

/-
  Counter and outputs are the same, and the tape of the
  second rig is that of the first one with more cells.
-/
structure Extends
    (collector : Nat)
    (more : List Int)
    (r₁ r₂ : Rig) : Prop where
  tape :
    r₂.machine.tape.cells = r₁.machine.tape.cells ++ more
  pointer : r₂.machine.pointer = r₁.machine.pointer
  outputs :
    r₂.host.collected collector = r₁.host.collected collector

variable {collector : Nat} {more : List Int}
variable {r₁ r₂ : Rig} {c : Config}

theorem Displays.extends
    (hFirst : r₁.Displays collector c)
    (hSecond : r₂.Displays collector (c.extend more)) :
    Extends collector more r₁ r₂ where
  tape := by
    rw [hSecond.tape, hFirst.tape]
    rfl
  pointer := hSecond.pointer.trans hFirst.pointer.symm
  outputs := hSecond.collected.trans hFirst.collected.symm

------------------------------------------------------------
-- Runs On Longer Tapes
------------------------------------------------------------

section

variable (h : Host) (program given : List Int)
variable (more : List Int)

/- A run that halts does the same with more cells. -/
theorem extended_halts
    (hFinishes :
      (scripted h program given).Finishes (.ok ()) r₁) :
    ∃ r₂,
      (scripted h (program ++ more) given).Finishes
        (.ok ()) r₂ ∧
      r₁.machine.state = .halted ∧
      r₂.machine.state = .halted ∧
      Extends h.collectors.length more r₁ r₂ ∧
      r₂.machine.steps = r₁.machine.steps ∧
      r₂.host.script h.scripts.length =
        r₁.host.script h.scripts.length := by
  have hShows := shows_scripted h program given
  have hLarger := shows_scripted h (program ++ more) given
  have hState := scripted_not_halted h program given
  have hOther := scripted_not_halted h (program ++ more) given
  rcases hShows.finishes_cases hState hFinishes with
    ⟨n, c, hSteps, -, ⟨hHalts, -⟩ | ⟨f, -, hError⟩⟩
  · rcases hShows.finishes_of_halts hState hSteps hHalts with
      ⟨r, hFirst, hShown, hHalted, hCount⟩
    rcases hFinishes.unique hFirst with ⟨-, rfl⟩
    rcases hLarger.finishes_of_halts hOther
        (hSteps.extend more) (hHalts.extend more) with
      ⟨r₂, hSecond, hShown₂, hHalted₂, hCount₂⟩
    refine
      ⟨r₂, hSecond, hHalted, hHalted₂,
        hShown.displays.extends hShown₂.displays,
        hCount₂.trans hCount.symm, ?_⟩
    rw [hShown₂.script, hShown.script]
    rfl
  · simp at hError

/- A run that raises does, too, unless an address overruns. -/
theorem extended_raises
    {f : Fault}
    (hFinishes :
      (scripted h program given).Finishes
        (.error (.fault f)) r₁)
    (hInside : ¬ f.Overruns) :
    ∃ r₂,
      (scripted h (program ++ more) given).Finishes
        (.error (.fault f)) r₂ ∧
      Extends h.collectors.length more r₁ r₂ := by
  rcases scripted_raises h program given hFinishes with
    ⟨n, c, g, hSteps, hFault, hRaised, hDisplays⟩
  have hSame : g = f := by
    rcases (g.eq_raised_iff _).mp hRaised with
      ⟨-, hSame⟩ | ⟨-, hOther⟩
    · exact (Failure.fault.inj hSame).symm
    · simp at hOther
  subst g
  rcases scripted_raises_of_steps h (program ++ more) given
      (hSteps.extend more)
      ((c.firstFault_persists more).eq_some hFault hInside)
    with ⟨r₂, hSecond, hDisplays₂⟩
  rw [← hRaised] at hSecond
  exact ⟨r₂, hSecond, hDisplays.extends hDisplays₂⟩

end

------------------------------------------------------------
-- The Frame
------------------------------------------------------------

/-
  More cells behind a program are out of its sight. It halts
  with them as it halts without, with the same counter,
  steps and outputs, and the same inputs taken; and it raises
  the same fault, unless that is about an address outside
  the tape. The cells behind are left as they are.
-/
theorem extension_framed
    (h : Host)
    (program more given : List Int) :
    (∀ r₁,
      (scripted h program given).Finishes (.ok ()) r₁ →
      ∃ r₂,
        (scripted h (program ++ more) given).Finishes
          (.ok ()) r₂ ∧
        r₁.machine.state = .halted ∧
        r₂.machine.state = .halted ∧
        Extends h.collectors.length more r₁ r₂ ∧
        r₂.machine.steps = r₁.machine.steps ∧
        r₂.host.script h.scripts.length =
          r₁.host.script h.scripts.length) ∧
    (∀ f r₁,
      (scripted h program given).Finishes
        (.error (.fault f)) r₁ →
      ¬ f.Overruns →
      ∃ r₂,
        (scripted h (program ++ more) given).Finishes
          (.error (.fault f)) r₂ ∧
        Extends h.collectors.length more r₁ r₂) := by
  constructor
  · exact fun r₁ hFirst =>
      extended_halts h program given more hFirst
  · exact fun f r₁ hFirst hInside =>
      extended_raises h program given more hFirst hInside

/-
  A sum is stored in front of other cells, and an input that
  is missing behind it is missed with them as without.
-/
theorem addition_extension_framed :
    (∃ r₁ r₂,
      (scripted (.fresh []) [1101, 2, 3, 0, 99] []).Finishes
          (.ok ()) r₁ ∧
        (scripted (.fresh []) ([1101, 2, 3, 0, 99] ++ [7, 8])
          []).Finishes (.ok ()) r₂ ∧
        r₂.machine.tape.cells = [5, 2, 3, 0, 99, 7, 8]) ∧
    ∃ r₁ r₂,
      (scripted (.fresh []) [1101, 2, 3, 0, 3, 0] []).Finishes
          (.error (.fault (.inputExhausted 0))) r₁ ∧
        ¬ (Fault.inputExhausted 0).Overruns ∧
        (scripted (.fresh []) ([1101, 2, 3, 0, 3, 0] ++ [7, 8])
            []).Finishes
          (.error (.fault (.inputExhausted 0))) r₂ ∧
        r₂.machine.tape.cells = [5, 2, 3, 0, 3, 0, 7, 8] := by
  constructor
  · have hFirst :
        ∃ r₁,
          (scripted (.fresh []) [1101, 2, 3, 0, 99]
              []).Finishes (.ok ()) r₁ ∧
            r₁.machine.tape.cells = [5, 2, 3, 0, 99] :=
      ⟨_, ⟨2, rfl⟩, rfl⟩
    rcases hFirst with ⟨r₁, hFirst, hTape⟩
    rcases (extension_framed (.fresh []) [1101, 2, 3, 0, 99]
        [7, 8] []).1 r₁ hFirst with
      ⟨r₂, hSecond, -, -, hExtends, -⟩
    refine ⟨r₁, r₂, hFirst, hSecond, ?_⟩
    rw [hExtends.tape, hTape]
    rfl
  · have hFirst :
        ∃ r₁,
          (scripted (.fresh []) [1101, 2, 3, 0, 3, 0]
              []).Finishes
            (.error (.fault (.inputExhausted 0))) r₁ ∧
            r₁.machine.tape.cells = [5, 2, 3, 0, 3, 0] :=
      ⟨_, ⟨2, rfl⟩, rfl⟩
    rcases hFirst with ⟨r₁, hFirst, hTape⟩
    rcases (extension_framed (.fresh []) [1101, 2, 3, 0, 3, 0]
        [7, 8] []).2 _ r₁ hFirst id with
      ⟨r₂, hSecond, hExtends⟩
    refine ⟨r₁, r₂, hFirst, id, hSecond, ?_⟩
    rw [hExtends.tape, hTape]
    rfl

end Rig

end IntcodeMachine
