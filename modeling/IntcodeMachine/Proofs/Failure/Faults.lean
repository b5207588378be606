import IntcodeMachine.Proofs.Simulation.Collection
import IntcodeMachine.Proofs.Simulation.Scripted
import IntcodeMachine.Proofs.Tape.Grammar

/-
  This file says when building and running a program raises
  something that is not a fault of the machine.

  A program is given as a text or as integers. Building it
  raises faults alone. Running it raises faults as well, as
  long as every fault that the rules lead to can be put into
  words; what is raised else is that an integer has too many
  digits, and nothing more.

  Main declarations:
    * `Program.plain`
    * `Rig.Raises`
    * `Rig.raises_iff`
    * `Rig.raises_faults_iff`
-/

------------------------------------------------------------
-- Building
------------------------------------------------------------

namespace IntcodeMachine

open Semantics

namespace Program

/- A program as it is written: a text, or integers. -/
def plain : String ⊕ List Int → Program
| .inl s => .text s
| .inr ns => .values (ns.map .int)

/- Building a program raises faults alone. -/
theorem load_plain_error
    {source : String ⊕ List Int}
    {e : Failure}
    (hLoad :
      (plain source).load Tape.standardDelimiter =
        .error e) :
    ∃ f, e = .fault f := by
  cases source with
  | inr ns =>
      simp [plain, load, Tape.ofValues,
        Tape.cellsOfValues_integers] at hLoad
  | inl s =>
      rw [plain, load, show Tape.standardDelimiter =
        .singleton ',' from rfl] at hLoad
      rcases Tape.parse_singleton_eq_error_iff.mp hLoad with
        ⟨f, -, hFault⟩
      exact ⟨f, hFault⟩

end Program

------------------------------------------------------------
-- Raising
------------------------------------------------------------

namespace Rig

/- Building a program raises, or running it on inputs does. -/
def Raises
    (h : Host)
    (p : Program)
    (inputs : List Int)
    (e : Failure) : Prop :=
  p.load Tape.standardDelimiter = .error e ∨
    ∃ t r',
      p.load Tape.standardDelimiter = .ok t ∧
        (scripted h t.cells inputs).Finishes (.error e) r'

/- The rules lead from a program to a fault. -/
def LeadsTo
    (p : Program)
    (inputs : List Int)
    (f : Fault) : Prop :=
  ∃ t n c,
    p.load Tape.standardDelimiter = .ok t ∧
      Config.Steps n (.initial t.cells inputs) c ∧
      c.firstFault = some f

/- What is raised comes from building or from the rules. -/
theorem raises_iff
    (h : Host)
    (p : Program)
    (inputs : List Int)
    (e : Failure) :
    Raises h p inputs e ↔
      p.load Tape.standardDelimiter = .error e ∨
        ∃ f, LeadsTo p inputs f ∧ e = f.raised := by
  refine or_congr Iff.rfl ?_
  constructor
  · intro hRun
    rcases hRun with ⟨t, r', hLoad, hFinishes⟩
    rcases (scripted_raises_iff h t.cells inputs e).mp
        ⟨r', hFinishes⟩ with
      ⟨n, c, f, hSteps, hFault, hRaised⟩
    exact ⟨f, ⟨t, n, c, hLoad, hSteps, hFault⟩, hRaised⟩
  · intro hParts
    rcases hParts with
      ⟨f, ⟨t, n, c, hLoad, hSteps, hFault⟩, hRaised⟩
    rcases (scripted_raises_iff h t.cells inputs e).mpr
        ⟨n, c, f, hSteps, hFault, hRaised⟩ with
      ⟨r', hFinishes⟩
    exact ⟨t, r', hLoad, hFinishes⟩

/-
  Only faults of the machine are raised exactly if all those
  that the rules lead to can be written. If one cannot, it
  is raised that an integer has too many digits.
-/
theorem raises_faults_iff
    (h : Host)
    (source : String ⊕ List Int)
    (inputs : List Int) :
    ((∀ e, Raises h (.plain source) inputs e →
        ∃ f, e = .fault f) ↔
      ∀ f, LeadsTo (.plain source) inputs f → f.Writable) ∧
    (Raises h (.plain source) inputs .unwritable ↔
      ∃ f, LeadsTo (.plain source) inputs f ∧
        ¬ f.Writable) ∧
    (∀ e, Raises h (.plain source) inputs e →
      (∃ f, e = .fault f) ∨ e = .unwritable) := by
  have hCases (e : Failure) :
      Raises h (.plain source) inputs e →
        (∃ f, e = .fault f) ∨
          ∃ f, LeadsTo (.plain source) inputs f ∧
            ¬ f.Writable ∧ e = .unwritable := by
    intro hRaises
    rcases (raises_iff h _ inputs e).mp hRaises with
      hLoad | ⟨f, hLeads, hRaised⟩
    · exact Or.inl (Program.load_plain_error hLoad)
    · rcases (f.eq_raised_iff e).mp hRaised with
        ⟨-, hFault⟩ | ⟨hLarge, hUnwritable⟩
      · exact Or.inl ⟨f, hFault⟩
      · exact Or.inr ⟨f, hLeads, hLarge, hUnwritable⟩
  have hUnwritable (f : Fault) :
      LeadsTo (.plain source) inputs f → ¬ f.Writable →
        Raises h (.plain source) inputs .unwritable := by
    intro hLeads hLarge
    refine
      (raises_iff h _ inputs _).mpr (Or.inr ⟨f, hLeads, ?_⟩)
    exact (f.eq_raised_iff _).mpr (Or.inr ⟨hLarge, rfl⟩)
  refine ⟨⟨?_, ?_⟩, ⟨?_, ?_⟩, ?_⟩
  · intro hFaults f hLeads
    by_contra hLarge
    rcases hFaults _ (hUnwritable f hLeads hLarge) with
      ⟨g, hFault⟩
    simp at hFault
  · intro hWritable e hRaises
    rcases hCases e hRaises with
      hFault | ⟨f, hLeads, hLarge, -⟩
    · exact hFault
    · exact absurd (hWritable f hLeads) hLarge
  · intro hRaises
    rcases hCases _ hRaises with
      ⟨f, hFault⟩ | ⟨f, hLeads, hLarge, -⟩
    · simp at hFault
    · exact ⟨f, hLeads, hLarge⟩
  · intro hParts
    rcases hParts with ⟨f, hLeads, hLarge⟩
    exact hUnwritable f hLeads hLarge
  · intro e hRaises
    rcases hCases e hRaises with hFault | ⟨-, -, -, hEq⟩
    · exact Or.inl hFault
    · exact Or.inr hEq

end Rig

end IntcodeMachine
