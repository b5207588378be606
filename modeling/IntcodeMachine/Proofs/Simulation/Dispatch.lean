import IntcodeMachine.Proofs.Semantics.Supply
import IntcodeMachine.Proofs.Simulation.Execution

/-
  This file shows that one instruction of the machine is one
  step of the language.

  A rig that shows a configuration moves to one that shows
  the effect of its instruction, halts where it halts, and
  raises the first fault of its checks. With a queue, it is
  suspended where the configuration starves.

  Main declarations:
    * `Rig.Displays`
    * `Rig.Moves`
    * `Rig.Shows.moves`
    * `Rig.Shows.dispatch_of_halts`
    * `Rig.Shows.dispatch_of_fault`
    * `Rig.Shows.dispatch_of_starving`
-/

------------------------------------------------------------
-- What Is Seen Of A Rig
------------------------------------------------------------

namespace IntcodeMachine

open Semantics
open Semantics.Config (first)

namespace Rig

/- Tape, counter and outputs are those of a configuration. -/
structure Displays
    (collector : Nat)
    (r : Rig)
    (c : Config) : Prop where
  tape : r.machine.tape = ⟨c.memory⟩
  pointer : r.machine.pointer = c.pc
  outputs : r.host.collectors[collector]? = some c.outputs

theorem Shows.displays
    {s : Supplier}
    {collector : Nat}
    {r : Rig}
    {c : Config}
    (hShows : r.Shows s collector c) :
    r.Displays collector c :=
  ⟨hShows.tape, hShows.pointer, hShows.outputs⟩

/-
  One instruction takes a rig to one that shows the
  configuration, and leaves the state as it is.
-/
structure Moves
    (s : Supplier)
    (collector : Nat)
    (r : Rig)
    (c : Config)
    (r' : Rig) : Prop where
  dispatch : ∃ x, r.dispatch = (.ok x, r')
  «shows» : r'.Shows s collector c
  state : r'.machine.state = r.machine.state
  steps : r'.machine.steps = r.machine.steps + 1

------------------------------------------------------------
-- After The Attempt
------------------------------------------------------------

theorem dispatch_of_attempt_error
    {r r' : Rig}
    {e : Failure}
    (hAttempt : r.attempt = (.error e, r')) :
    r.dispatch = (.error e, r') := by
  rw [dispatch_eq_attempt, hAttempt]

theorem dispatch_of_attempt_ok
    {r r₁ : Rig}
    {x : Answered}
    (hTracing : r.machine.tracing = false)
    (hAttempt : r.attempt = (.ok x, r₁)) :
    r.dispatch =
      match r₁.counted.apply x.signal with
      | (.error e, r') => (.error e, r')
      | (.ok _, r') => (.ok x.signal, r') := by
  have hOff : r₁.machine.tracing = false := by
    have hKept := r.attempt_tracing
    rw [hAttempt] at hKept
    exact hKept.trans hTracing
  rw [dispatch_eq_attempt, hAttempt]
  exact complete_of_not_tracing hOff _ _ _

namespace Shows

variable {s : Supplier} {collector : Nat}
variable {r : Rig} {c : Config}

theorem dispatch_of_execute_error
    (hShows : r.Shows s collector c)
    {op : Op}
    (hDecodes : c.Decodes op)
    {e : Failure}
    {h : Host}
    (hExecute :
      (s.operation collector op).execute (c.site op)
          ⟨⟨c.memory⟩, r.host⟩ =
        (.error e, ⟨⟨c.memory⟩, h⟩))
    (hOutputs : h.collectors[collector]? = some c.outputs) :
    ∃ r', r.dispatch = (.error e, r') ∧
      r'.Displays collector c := by
  have hAttempt := hShows.attempt_of_decodes hDecodes
  rw [hExecute] at hAttempt
  exact
    ⟨_, dispatch_of_attempt_error hAttempt,
      ⟨rfl, hShows.pointer, hOutputs⟩⟩

theorem dispatch_of_execute_ok
    (hShows : r.Shows s collector c)
    {op : Op}
    (hDecodes : c.Decodes op)
    {x : Signal}
    {b : Action.Bench}
    (hExecute :
      (s.operation collector op).execute (c.site op)
          ⟨⟨c.memory⟩, r.host⟩ =
        (.ok x, b)) :
    r.dispatch =
      match (r.afterAction b).counted.apply x with
      | (.error e, r') => (.error e, r')
      | (.ok _, r') => (.ok x, r') := by
  have hAttempt := hShows.attempt_of_decodes hDecodes
  rw [hExecute] at hAttempt
  exact dispatch_of_attempt_ok hShows.tracing hAttempt

/- A signal that leads to a configuration moves the rig there. -/
theorem moves_of_execute
    (hShows : r.Shows s collector c)
    {op : Op}
    (hDecodes : c.Decodes op)
    {x : Signal}
    (c' : Config)
    {h : Host}
    (hExecute :
      (s.operation collector op).execute (c.site op)
          ⟨⟨c.memory⟩, r.host⟩ =
        (.ok x, ⟨⟨c'.memory⟩, h⟩))
    (hApply :
      ∀ r₁ : Rig, r₁.machine.tape = ⟨c'.memory⟩ →
        r₁.machine.pointer = c.pc →
          r₁.apply x = (.ok (), r₁.moveTo c'.pc))
    (hInputs : s.Holds h c')
    (hOutputs :
      h.collectors[collector]? = some c'.outputs) :
    ∃ r', r.Moves s collector c' r' := by
  have hDispatch :=
    hShows.dispatch_of_execute_ok hDecodes hExecute
  have hApplied :=
    hApply (r.afterAction ⟨⟨c'.memory⟩, h⟩).counted rfl
      hShows.pointer
  simp only [hApplied] at hDispatch
  exact
    ⟨_, ⟨x, hDispatch⟩,
      ⟨hShows.table, hShows.tracing, rfl, rfl, hInputs,
        hOutputs⟩,
      rfl, rfl⟩

------------------------------------------------------------
-- Inputs That Are Taken
------------------------------------------------------------

end Shows

end Rig

/- A jump off the memory is refused for its fault. -/
theorem Semantics.Config.refusal?_jump
    {c : Config}
    (address : Int)
    {f : Fault}
    (hFault : c.boundsFault address = some f) :
    (Signal.jump address).refusal? ⟨c.memory⟩ =
      some f.raised := by
  by_cases hCell : 0 ≤ address ∧ address < c.memory.length
  · rw [Config.boundsFault, if_pos hCell] at hFault
    simp at hFault
  · rw [Config.boundsFault, if_neg hCell, Option.some.injEq]
      at hFault
    subst hFault
    exact if_neg hCell

namespace Supplier

variable {s : Supplier} {c : Config} {h : Host}

theorem taking_collectors
    (s : Supplier)
    (c : Config)
    (h : Host) :
    (s.taking c h).collectors = h.collectors := by
  cases s with
  | script slot => rfl
  | queue slot => rfl

/- The host then holds the inputs of the effect. -/
theorem holds_taking
    (hHolds : s.Holds h c) :
    s.Holds (s.taking c h) (c.effect .input) := by
  cases s with
  | script slot =>
      rcases List.getElem?_eq_some_iff.mp hHolds with
        ⟨hSlot, -⟩
      exact List.getElem?_set_self hSlot
  | queue slot =>
      rcases List.getElem?_eq_some_iff.mp hHolds with
        ⟨hSlot, -⟩
      exact List.getElem?_set_self hSlot

/- Only the inputs of a configuration are held. -/
theorem Holds.congr
    {c' : Config}
    (hHolds : s.Holds h c)
    (hInputs : c'.inputs = c.inputs)
    (hTaken : c'.taken = c.taken) :
    s.Holds h c' := by
  cases s with
  | script slot =>
      simp only [Holds, hInputs, hTaken]
      exact hHolds
  | queue slot =>
      simp only [Holds, hInputs]
      exact hHolds

end Supplier

------------------------------------------------------------
-- Instructions That Go On
------------------------------------------------------------

namespace Rig.Shows

variable {s : Supplier} {collector : Nat}
variable {r : Rig} {c : Config}

/- A jump that is ready moves the rig to its effect. -/
theorem moves_of_jump
    (hShows : r.Shows s collector c)
    {t : Condition}
    (hReady : c.Ready (.jump t)) :
    ∃ r', r.Moves s collector (c.effect (.jump t)) r' := by
  rcases (Config.ready_iff c _).mp hReady with
    ⟨hDecodes, hPasses⟩
  have hExecute := s.execute_jump collector c r.host t
  simp only [Config.operationChecks, Config.first_cons,
    Option.or_eq_none_iff] at hPasses
  rcases hPasses with ⟨hFirst, hJump⟩
  rw [hFirst] at hExecute
  dsimp only at hExecute
  by_cases hHolds : t.Holds (c.value 0)
  · rw [if_pos hHolds] at hExecute hJump
    simp only [Config.first_cons, Config.first_nil,
      Option.or_none, Option.or_eq_none_iff,
      Config.boundsFault_eq_none_iff] at hJump
    rcases hJump with ⟨hSecond, hCell⟩
    rw [hSecond] at hExecute
    have hAddress :
        ((c.value 1).toNat : Int) = c.value 1 :=
      Int.toNat_of_nonneg hCell.1
    rw [Config.effect, if_pos hHolds]
    refine
      hShows.moves_of_execute hDecodes
        { c with pc := (c.value 1).toNat }
        hExecute ?_ (hShows.inputs.congr rfl rfl)
        hShows.outputs
    intro r₁ hTape _
    have hContains :
        r₁.machine.tape.Contains (c.value 1) := by
      rw [hTape]
      exact hCell
    rw [apply, if_pos hContains]
    simp only [hAddress]
  · rw [if_neg hHolds] at hExecute
    rw [Config.effect, if_neg hHolds]
    refine
      hShows.moves_of_execute hDecodes
        { c with pc := c.pc + 3 }
        hExecute ?_ (hShows.inputs.congr rfl rfl)
        hShows.outputs
    intro r₁ _ hPointer
    rw [apply, hPointer]
    rfl

/- An instruction that is ready moves the rig to its effect. -/
theorem moves
    (hShows : r.Shows s collector c)
    {op : Op}
    (hReady : c.Ready op)
    (hGoes : op ≠ .halt) :
    ∃ r', r.Moves s collector (c.effect op) r' := by
  rcases (Config.ready_iff c op).mp hReady with
    ⟨hDecodes, hPasses⟩
  cases op with
  | halt => exact absurd rfl hGoes
  | calculate f =>
      have hExecute :=
        s.execute_calculate collector c r.host f
      rw [hPasses] at hExecute
      refine
        hShows.moves_of_execute hDecodes
          (c.effect (.calculate f)) hExecute ?_
          (hShows.inputs.congr rfl rfl) hShows.outputs
      intro r₁ _ hPointer
      rw [apply, hPointer]
      rfl
  | input =>
      have hExecute :=
        s.execute_input collector c r.host hShows.inputs
          hReady.inputs_ne_nil
      rw [hPasses] at hExecute
      refine
        hShows.moves_of_execute hDecodes (c.effect .input)
          hExecute ?_
          (Supplier.holds_taking hShows.inputs) ?_
      · intro r₁ _ hPointer
        rw [apply, hPointer]
        rfl
      · rw [Supplier.taking_collectors]
        exact hShows.outputs
  | output =>
      have hExecute :=
        s.execute_output collector c r.host hShows.outputs
      rw [hPasses] at hExecute
      refine
        hShows.moves_of_execute hDecodes (c.effect .output)
          hExecute ?_ ?_ ?_
      · intro r₁ _ hPointer
        rw [apply, hPointer]
        rfl
      · exact hShows.inputs.congr rfl rfl
      · rcases List.getElem?_eq_some_iff.mp hShows.outputs
          with ⟨hSlot, -⟩
        exact List.getElem?_set_self hSlot
  | jump t => exact hShows.moves_of_jump hReady

------------------------------------------------------------
-- Instructions That Stop The Machine
------------------------------------------------------------

/- An instruction that halts stops the machine in its place. -/
theorem dispatch_of_halts
    (hShows : r.Shows s collector c)
    (hHalts : c.Halts) :
    ∃ r', r.dispatch = (.ok .halt, r') ∧
      r'.Shows s collector c ∧
      r'.machine.state = .halted ∧
      r'.machine.steps = r.machine.steps + 1 := by
  have hDispatch :=
    hShows.dispatch_of_execute_ok hHalts
      (s.execute_halt collector c r.host)
  exact
    ⟨_, hDispatch,
      ⟨hShows.table, hShows.tracing, rfl, hShows.pointer,
        hShows.inputs, hShows.outputs⟩,
      rfl, rfl⟩

/- With a queue, a configuration that starves is suspended. -/
theorem dispatch_of_starving
    {slot : Nat}
    (hShows : r.Shows (.queue slot) collector c)
    (hDecodes : c.Decodes .input)
    (hEmpty : c.inputs = [])
    (hWritable : Numeral.Writable c.pc) :
    ∃ r', r.dispatch = (.ok .suspend, r') ∧
      r'.Shows (.queue slot) collector c ∧
      r'.machine.state = .suspended ∧
      r'.machine.steps = r.machine.steps + 1 := by
  have hDispatch :=
    hShows.dispatch_of_execute_ok hDecodes
      (Supplier.execute_input_suspended collector c r.host
        hShows.inputs hEmpty hWritable)
  exact
    ⟨_, hDispatch,
      ⟨hShows.table, hShows.tracing, rfl, hShows.pointer,
        hShows.inputs, hShows.outputs⟩,
      rfl, rfl⟩

------------------------------------------------------------
-- Instructions That Fail
------------------------------------------------------------

/- With a script, it fails before anything is done. -/
theorem dispatch_of_exhausted
    {slot : Nat}
    (hShows : r.Shows (.script slot) collector c)
    (hDecodes : c.Decodes .input)
    (hEmpty : c.inputs = []) :
    r.dispatch =
      (.error (Fault.inputExhausted c.taken).raised, r) := by
  have hAttempt := hShows.attempt_of_decodes hDecodes
  rw [Supplier.execute_input_exhausted collector c r.host
    hShows.inputs hEmpty] at hAttempt
  have hSame : r.afterAction ⟨⟨c.memory⟩, r.host⟩ = r := by
    rw [← hShows.tape]
    rfl
  dsimp only at hAttempt
  rw [hSame] at hAttempt
  exact dispatch_of_attempt_error hAttempt

/- A check of a jump that fails is raised. -/
theorem dispatch_of_jump_fault
    (hShows : r.Shows s collector c)
    {t : Condition}
    (hDecodes : c.Decodes (.jump t))
    {f : Fault}
    (hFault : first (c.operationChecks (.jump t)) = some f) :
    ∃ r', r.dispatch = (.error f.raised, r') ∧
      r'.Displays collector c := by
  have hExecute := s.execute_jump collector c r.host t
  simp only [Config.operationChecks, Config.first_cons]
    at hFault
  cases hFirst : c.operandFault 0 with
  | some g =>
      rw [hFirst] at hExecute hFault
      simp only [Option.some_or, Option.some.injEq] at hFault
      subst g
      exact
        hShows.dispatch_of_execute_error hDecodes hExecute
          hShows.outputs
  | none =>
      rw [hFirst] at hExecute hFault
      rw [Option.none_or] at hFault
      dsimp only at hExecute
      by_cases hHolds : t.Holds (c.value 0)
      · rw [if_pos hHolds] at hExecute hFault
        simp only [Config.first_cons, Config.first_nil,
          Option.or_none] at hFault
        cases hSecond : c.operandFault 1 with
        | some g =>
            rw [hSecond] at hExecute hFault
            simp only [Option.some_or, Option.some.injEq]
              at hFault
            subst g
            exact
              hShows.dispatch_of_execute_error hDecodes
                hExecute hShows.outputs
        | none =>
            -- The operation answers; the jump is refused.
            rw [hSecond] at hExecute hFault
            rw [Option.none_or] at hFault
            have hDispatch :=
              hShows.dispatch_of_execute_ok hDecodes hExecute
            have hRefusal :=
              Config.refusal?_jump (c.value 1) hFault
            rw [apply_of_refusal hRefusal] at hDispatch
            exact
              ⟨_, hDispatch,
                ⟨rfl, hShows.pointer, hShows.outputs⟩⟩
      · rw [if_neg hHolds] at hFault
        simp at hFault

/- A check of the operation that fails is raised. -/
theorem dispatch_of_operation_fault
    (hShows : r.Shows s collector c)
    {op : Op}
    (hDecodes : c.Decodes op)
    {f : Fault}
    (hFault : first (c.operationChecks op) = some f)
    (hSupplied : f.Starves → ∃ slot, s = .script slot) :
    ∃ r', r.dispatch = (.error f.raised, r') ∧
      r'.Displays collector c := by
  cases op with
  | halt => simp [Config.operationChecks] at hFault
  | calculate g =>
      have hExecute :=
        s.execute_calculate collector c r.host g
      rw [hFault] at hExecute
      exact
        hShows.dispatch_of_execute_error hDecodes hExecute
          hShows.outputs
  | output =>
      have hExecute :=
        s.execute_output collector c r.host hShows.outputs
      rw [hFault] at hExecute
      exact
        hShows.dispatch_of_execute_error hDecodes hExecute
          hShows.outputs
  | input =>
      by_cases hLeft : c.inputs = []
      · have hName : f = .inputExhausted c.taken := by
          simp only [Config.operationChecks,
            Config.inputFault, hLeft, Config.first_cons,
            Option.some_or, Option.some.injEq] at hFault
          exact hFault.symm
        subst hName
        rcases hSupplied trivial with ⟨slot, rfl⟩
        exact
          ⟨r, hShows.dispatch_of_exhausted hDecodes hLeft,
            hShows.displays⟩
      · have hExecute :=
          s.execute_input collector c r.host hShows.inputs
            hLeft
        rw [hFault] at hExecute
        refine
          hShows.dispatch_of_execute_error hDecodes hExecute ?_
        rw [Supplier.taking_collectors]
        exact hShows.outputs
  | jump t => exact hShows.dispatch_of_jump_fault hDecodes hFault

/-
  The first fault is raised, unless it is that a queue has
  no inputs.
-/
theorem dispatch_of_fault
    (hShows : r.Shows s collector c)
    {f : Fault}
    (hFault : c.firstFault = some f)
    (hSupplied : f.Starves → ∃ slot, s = .script slot) :
    ∃ r', r.dispatch = (.error f.raised, r') ∧
      r'.Displays collector c := by
  rw [Config.firstFault, Config.checks, Config.first_append]
    at hFault
  cases hDecoding : first c.decodingChecks with
  | some g =>
      rw [hDecoding, Option.some_or, Option.some.injEq]
        at hFault
      subst g
      exact
        ⟨r,
          dispatch_of_attempt_error
            (hShows.attempt_of_fault hDecoding),
          hShows.displays⟩
  | none =>
      rw [hDecoding, Option.none_or] at hFault
      cases hOp : c.op? with
      | none => simp [Config.executionChecks, hOp] at hFault
      | some op =>
          simp only [Config.executionChecks, hOp] at hFault
          exact
            hShows.dispatch_of_operation_fault
              ((Config.decodes_iff c op).mpr ⟨hDecoding, hOp⟩)
              hFault hSupplied

end Rig.Shows

end IntcodeMachine
