import IntcodeMachine.Proofs.Failure.Stages
import IntcodeMachine.Proofs.Simulation.Scripted

/-
  This file says what a failing instruction leaves behind.

  The counter stays on the instruction and the machine keeps
  running. With the standard operations, tape and outputs
  are as they were, and so are the inputs, but for one that
  is lost when it was taken for a target that cannot be
  written.

  Main declarations:
    * `Action.Tidy`
    * `Rig.LosesInput`
    * `Rig.Framed`
    * `Rig.framed_of_dispatch_error`
    * `Rig.failures_framed`
-/

------------------------------------------------------------
-- Tidy Actions
------------------------------------------------------------

namespace IntcodeMachine

open Semantics

namespace Action

/- The action changes nothing, unless it advances. -/
def Tidy (a : Action) : Prop :=
  ∀ site b,
    (a.run site b).1 = .ok .nothing ∨ (a.run site b).2 = b

theorem tidy_reply
    (r : Reply) :
    (Action.reply r).Tidy :=
  fun _ _ => Or.inr rfl

/- Reading an operand first is as tidy as what follows. -/
theorem tidy_valueOf
    (slot : Nat)
    {next : Int → Action}
    (hNext : ∀ n, (next n).Tidy) :
    (Action.valueOf slot next).Tidy := by
  intro site b
  rw [run_valueOf]
  split
  · exact Or.inr rfl
  · split
    · exact Or.inr rfl
    · exact hNext _ site b

theorem tidy_writeTo
    (slot : Nat)
    (n : Int) :
    (Action.writeTo slot n .advance).Tidy := by
  intro site b
  rw [run_writeTo]
  split
  · exact Or.inr rfl
  · split
    · exact Or.inr rfl
    · exact Or.inl rfl

theorem tidy_emitTo
    (collector : Nat)
    (n : Int) :
    (Action.emitTo (.collector collector) n .advance).Tidy :=
  fun _ _ => Or.inl rfl

end Action

/- All standard operations are tidy but that for inputs. -/
theorem Supplier.operation_tidy
    (s : Supplier)
    (collector : Nat)
    {op : Op}
    (hOp : op ≠ .input) :
    (s.operation collector op).action.Tidy := by
  cases op with
  | input => exact absurd rfl hOp
  | halt => exact Action.tidy_reply _
  | output =>
      exact
        Action.tidy_valueOf 0 fun n =>
          Action.tidy_emitTo collector n
  | calculate f =>
      cases f <;>
        exact
          Action.tidy_valueOf 0 fun _ =>
            Action.tidy_valueOf 1 fun _ =>
              Action.tidy_writeTo 2 _
  | jump t =>
      have hJump (test : Int → Bool) :
          (Operation.jumpIf test).Tidy := by
        refine Action.tidy_valueOf 0 fun a => ?_
        split
        · exact
            Action.tidy_valueOf 1 fun b =>
              Action.tidy_reply _
        · exact Action.tidy_reply _
      cases t
      · exact hJump _
      · exact hJump _

/- An operation that is tidy advances or changes nothing. -/
theorem Operation.execute_of_tidy
    {o : Operation}
    (hTidy : o.action.Tidy)
    {site : Action.Site}
    {b b' : Action.Bench}
    {x : Except Failure Signal}
    (hExecute : o.execute site b = (x, b')) :
    x = .ok (.advance site.instruction.length) ∨ b' = b := by
  unfold execute at hExecute
  split at hExecute
  · have hRun := hTidy site b
    rcases hAction : o.action.run site b with ⟨e | r, b₁⟩
    · simp only [hAction, Prod.mk.injEq] at hExecute
      simp only [hAction, reduceCtorEq, false_or] at hRun
      rw [← hExecute.2]
      exact Or.inr hRun
    · simp only [hAction, Prod.mk.injEq] at hExecute
      simp only [hAction, Except.ok.injEq] at hRun
      rw [← hExecute.1, ← hExecute.2]
      rcases hRun with rfl | hSame
      · exact Or.inl rfl
      · exact Or.inr hSame
  · simp only [Prod.mk.injEq] at hExecute
    exact Or.inr hExecute.2.symm

------------------------------------------------------------
-- Taking An Input
------------------------------------------------------------

/- The host after one input of a script is gone. -/
def Host.consume
    (h : Host)
    (slot : Nat) : Host :=
  { h with
    scripts :=
      h.scripts.set slot
        ⟨(h.script slot).remaining.tail,
          (h.script slot).consumed + 1⟩ }

/- Nothing can be written through the parameter. -/
def Parameter.Unwritable
    (p : Parameter)
    (t : Tape) : Prop :=
  p.mode = .immediate ∨ ¬ t.Contains p.raw

theorem Parameter.store_error
    {p : Parameter}
    {t : Tape}
    (hUnwritable : p.Unwritable t)
    (site : Action.Site)
    (n : Int) :
    ∃ e, Action.store site t p n = .error e := by
  rcases hUnwritable with hMode | hOutside
  · exact ⟨_, by rw [Action.store, hMode]⟩
  · unfold Action.store
    split
    · exact ⟨_, rfl⟩
    · exact ⟨_, by rw [Tape.write, if_neg hOutside]⟩

theorem Parameter.store_ok
    {p : Parameter}
    {t : Tape}
    (hWritable : ¬ p.Unwritable t)
    (site : Action.Site)
    (n : Int) :
    ∃ t', Action.store site t p n = .ok t' := by
  have hParts := not_or.mp hWritable
  unfold Action.store
  split
  · rename_i hMode
    exact absurd hMode hParts.1
  · exact
      ⟨_, by rw [Tape.write, if_pos (not_not.mp hParts.2)]⟩

/- An input is taken for a target that cannot be written. -/
def Action.Bench.Loses
    (b : Action.Bench)
    (slot : Nat)
    (ps : List Parameter) : Prop :=
  ∃ p, ps = [p] ∧ (b.host.script slot).remaining ≠ [] ∧
    p.Unwritable b.tape

/- What taking an input from a script leaves behind. -/
theorem Operation.execute_input_cases
    {slot : Nat}
    {i : Instruction}
    {ps : List Parameter}
    {b b' : Action.Bench}
    {x : Except Failure Signal}
    (hExecute :
      (input (.script slot) inputName).execute ⟨i, ps⟩ b =
        (x, b')) :
    x = .ok (.advance i.length) ∨
      (b.Loses slot ps ∧
        b' = { b with host := b.host.consume slot }) ∨
      (¬ b.Loses slot ps ∧ b' = b) := by
  unfold execute at hExecute
  split at hExecute
  · rename_i hCount
    rcases List.length_eq_one_iff.mp hCount with ⟨p, hOne⟩
    have hParameters : ps = [p] := hOne
    subst hParameters
    cases hLeft : (b.host.script slot).remaining with
    | nil =>
        have hLoses : ¬ b.Loses slot [p] := by
          intro hParts
          rcases hParts with ⟨q, -, hNonempty, -⟩
          exact hNonempty hLeft
        simp only [input, Action.run_receiveFrom,
          Host.receive, Host.receiveScripted, hLeft,
          Prod.mk.injEq] at hExecute
        exact Or.inr (Or.inr ⟨hLoses, hExecute.2.symm⟩)
    | cons n rest =>
        simp only [input, Action.run_receiveFrom,
          Action.run_writeTo, Host.receive,
          Host.receiveScripted, hLeft, Action.Bench.withHost,
          List.getElem?_cons_zero] at hExecute
        by_cases hBad : p.Unwritable b.tape
        · rcases Parameter.store_error hBad ⟨i, [p]⟩ n with
            ⟨e, hStore⟩
          have hLoses : b.Loses slot [p] :=
            ⟨p, rfl, by simp [hLeft], hBad⟩
          simp only [hStore, Prod.mk.injEq] at hExecute
          refine Or.inr (Or.inl ⟨hLoses, ?_⟩)
          rw [← hExecute.2, Host.consume, hLeft,
            List.tail_cons]
        · rcases Parameter.store_ok hBad ⟨i, [p]⟩ n with
            ⟨t, hStore⟩
          simp only [hStore, Action.advance, Action.run,
            signalOf, Prod.mk.injEq] at hExecute
          exact Or.inl hExecute.1.symm
  · rename_i hCount
    have hLoses : ¬ b.Loses slot ps := by
      intro hParts
      rcases hParts with ⟨p, rfl, -, -⟩
      exact hCount rfl
    simp only [Prod.mk.injEq] at hExecute
    exact Or.inr (Or.inr ⟨hLoses, hExecute.2.symm⟩)

------------------------------------------------------------
-- The Standard Operations
------------------------------------------------------------

theorem Semantics.Op.ofNumber?_input
    (k : Opcode) :
    Op.ofNumber? k = some .input ↔ k = Table.inputOpcode := by
  revert k
  decide

namespace Rig

variable {r r' : Rig} {slot collector : Nat} {e : Failure}

/-
  The next instruction is fetched and decoded, it is an
  input, the script has integers left, and the target cannot
  be written.
-/
def LosesInput
    (r : Rig)
    (slot : Nat) : Prop :=
  ∃ o i ps,
    r.machine.fetch = .ok (o, i) ∧
      i.opcode = Table.inputOpcode ∧
      r.machine.operands i = .ok ps ∧
      r.bench.Loses slot ps

/- Of the standard operations, inputs alone can be lost. -/
theorem losesInput_iff
    {op : Op}
    {i : Instruction}
    {ps : List Parameter}
    (hFetch :
      r.machine.fetch =
        .ok
          ((Supplier.script slot).operation collector op, i))
    (hNumber : Op.ofNumber? i.opcode = some op)
    (hOperands : r.machine.operands i = .ok ps) :
    r.LosesInput slot ↔
      op = .input ∧ r.bench.Loses slot ps := by
  constructor
  · intro hLost
    rcases hLost with
      ⟨o, j, qs, hFetched, hInput, hRead, hLoses⟩
    rw [hFetch] at hFetched
    simp only [Except.ok.injEq, Prod.mk.injEq] at hFetched
    rcases hFetched with ⟨-, rfl⟩
    rw [hOperands, Except.ok.injEq] at hRead
    subst hRead
    rw [(Op.ofNumber?_input _).mpr hInput, Option.some.injEq]
      at hNumber
    exact ⟨hNumber.symm, hLoses⟩
  · intro hParts
    rcases hParts with ⟨rfl, hLoses⟩
    exact
      ⟨_, i, ps, hFetch, (Op.ofNumber?_input _).mp hNumber,
        hOperands, hLoses⟩

/- What an operation leaves that does not advance. -/
theorem bench_of_execute
    (hTable :
      r.machine.table =
        Table.standard (.script slot)
          (.collector collector))
    {o : Operation}
    {i : Instruction}
    {ps : List Parameter}
    {x : Except Failure Signal}
    {b : Action.Bench}
    (hFetch : r.machine.fetch = .ok (o, i))
    (hOperands : r.machine.operands i = .ok ps)
    (hExecute : o.execute ⟨i, ps⟩ r.bench = (x, b))
    (hStays : x ≠ .ok (.advance i.length)) :
    (r.LosesInput slot ∧
        b = { r.bench with host := r.host.consume slot }) ∨
      (¬ r.LosesInput slot ∧ b = r.bench) := by
  have hEntry := (Machine.fetch_eq_ok_iff.mp hFetch).entry
  rw [hTable, Supplier.serves_standard,
    Option.map_eq_some_iff] at hEntry
  rcases hEntry with ⟨op, hNumber, rfl⟩
  rw [losesInput_iff hFetch hNumber hOperands]
  by_cases hOp : op = .input
  · subst hOp
    rcases Operation.execute_input_cases hExecute with
      hAdvance | ⟨hLost, hBench⟩ | ⟨hKept, hBench⟩
    · exact absurd hAdvance hStays
    · exact Or.inl ⟨⟨rfl, hLost⟩, hBench⟩
    · exact Or.inr ⟨fun hLost => hKept hLost.2, hBench⟩
  · have hTidy :=
      (Supplier.script slot).operation_tidy collector hOp
    rcases Operation.execute_of_tidy hTidy hExecute with
      hAdvance | hBench
    · exact absurd hAdvance hStays
    · exact Or.inr ⟨fun hLost => hOp hLost.1, hBench⟩

/- What is left on the bench when an instruction fails. -/
theorem FailsIn.bench_cases
    {stage : Stage}
    {b : Action.Bench}
    (hFails : r.FailsIn stage e b)
    (hTable :
      r.machine.table =
        Table.standard (.script slot)
          (.collector collector)) :
    (r.LosesInput slot ∧
        b = { r.bench with host := r.host.consume slot }) ∨
      (¬ r.LosesInput slot ∧ b = r.bench) := by
  cases hFails with
  | decoding hFetch =>
      refine Or.inr ⟨?_, rfl⟩
      intro hLost
      rcases hLost with ⟨o, i, ps, hFetched, -⟩
      rw [hFetch] at hFetched
      simp at hFetched
  | parameters hFetch hOperands =>
      refine Or.inr ⟨?_, rfl⟩
      intro hLost
      rcases hLost with ⟨o, i, ps, hFetched, -, hRead, -⟩
      rw [hFetch] at hFetched
      simp only [Except.ok.injEq, Prod.mk.injEq] at hFetched
      rcases hFetched with ⟨-, rfl⟩
      rw [hOperands] at hRead
      simp at hRead
  | execution hFetch hOperands hExecute =>
      exact
        bench_of_execute hTable hFetch hOperands hExecute
          (by simp)
  | signal hFetch hOperands hExecute hRefusal =>
      refine
        bench_of_execute hTable hFetch hOperands hExecute ?_
      -- A machine never refuses to advance.
      intro hAdvance
      rw [Except.ok.inj hAdvance, Signal.refusal?_advance]
        at hRefusal
      cases hRefusal

------------------------------------------------------------
-- Failures
------------------------------------------------------------

/- What is true of a rig after an instruction has failed. -/
structure Framed
    (r : Rig)
    (e : Failure)
    (r' : Rig) : Prop where
  pointer : r'.machine.pointer = r.machine.pointer
  state : r'.machine.state = .running
  stage : ∃ stage b, r.FailsIn stage e b
  steps :
    ∀ stage b, r.FailsIn stage e b →
      r'.machine.steps = r.machine.steps + stage.counted
  standard :
    ∀ slot collector,
      r.machine.table =
          Table.standard (.script slot)
            (.collector collector) →
        r'.machine.tape = r.machine.tape ∧
          (r.LosesInput slot →
            r'.host = r.host.consume slot) ∧
          (¬ r.LosesInput slot → r'.host = r.host)

theorem framed_of_dispatch_error
    (hTracing : r.machine.tracing = false)
    (hState : r.machine.state = .running)
    (hDispatch : r.dispatch = (.error e, r')) :
    r.Framed e r' := by
  have hAfter
      {stage : Stage}
      {b : Action.Bench}
      (hFails : r.FailsIn stage e b) :
      r' = (r.afterAction b).countedBy stage.counted := by
    have hEq := hFails.dispatch_eq hTracing
    rw [hDispatch] at hEq
    exact (Prod.mk.inj hEq).2
  rcases exists_failsIn hTracing hDispatch with
    ⟨stage, b, hFails⟩
  refine
    ⟨?_, ?_, ⟨stage, b, hFails⟩, ?_, ?_⟩
  · rw [hAfter hFails]
    rfl
  · rw [hAfter hFails]
    exact hState
  · intro stage₁ b₁ hFails₁
    rw [hAfter hFails₁]
    rfl
  · intro slot collector hTable
    rcases hFails.bench_cases hTable with
      ⟨hLoses, hBench⟩ | ⟨hKeeps, hBench⟩
    · rw [hAfter hFails, hBench]
      exact ⟨rfl, fun _ => rfl, fun h => absurd hLoses h⟩
    · rw [hAfter hFails, hBench]
      exact ⟨rfl, fun h => absurd h hKeeps, fun _ => rfl⟩

/-
  Without a trace, whenever a step or a run raises, there is
  an instruction that failed, and it leaves the rig framed.
-/
theorem failures_framed
    (r : Rig)
    (hTracing : r.machine.tracing = false) :
    (∀ e r', r.step = (.error e, r') →
      (r.enter .running).Framed e r') ∧
    (∀ e r', r.Finishes (.error e) r' →
      ∃ n r₀, Reaches n r.entered r₀ ∧
        r₀.machine.table = r.machine.table ∧
        r₀.Framed e r') := by
  constructor
  · intro e r' hStep
    unfold step at hStep
    split at hStep
    · simp at hStep
    · rcases hDispatch : (r.enter .running).dispatch with
        ⟨e₁ | s, r₁⟩
      · simp only [hDispatch, Prod.mk.injEq,
          Except.error.injEq] at hStep
        rcases hStep with ⟨rfl, rfl⟩
        exact framed_of_dispatch_error hTracing rfl hDispatch
      · simp [hDispatch] at hStep
  · intro e r' hFinishes
    by_cases hState : r.machine.state = .halted
    · rcases hFinishes with ⟨budget, hRun⟩
      simp [run, hState] at hRun
    · rcases (finishes_iff_reaches hState).mp hFinishes with
        ⟨n, r₀, hReaches, hEnds⟩
      have hEntered := r.entered_machine
      have hKeeps := hReaches.keeps
      have hOff : r₀.machine.tracing = false := by
        rw [hKeeps.2, hEntered]
        exact hTracing
      have hRunning : r₀.machine.state = .running := by
        rw [hReaches.state, hEntered]
      refine ⟨n, r₀, hReaches, ?_, ?_⟩
      · rw [hKeeps.1, hEntered]
      · exact framed_of_dispatch_error hOff hRunning hEnds

/- An input is lost when its parameter is immediate. -/
theorem lost_input_framed :
    (scripted (.fresh []) [103, 0] [5]).machine.tracing =
        false ∧
      ∃ r',
        (scripted (.fresh []) [103, 0] [5]).step =
          (.error (.fault (.immediateTarget 0 0)), r') ∧
        ((scripted (.fresh []) [103, 0] [5]).enter
          .running).Framed
            (.fault (.immediateTarget 0 0)) r' := by
  have hShows := shows_scripted (.fresh []) [103, 0] [5]
  have hRunning :
      ((scripted (.fresh []) [103, 0] [5]).enter
        .running).Shows (.script 0) 0
          (Config.initial [103, 0] [5]) :=
    ⟨hShows.table, hShows.tracing, hShows.tape,
      hShows.pointer, hShows.inputs, hShows.outputs⟩
  have hFault :
      (Config.initial [103, 0] [5]).firstFault =
        some (.immediateTarget 0 0) := by
    decide
  have hWritable : (Fault.immediateTarget 0 0).Writable := by
    intro n hn
    rw [List.mem_singleton.mp hn]
    exact Numeral.lt_ceiling_of_lt_ten (by decide)
  rcases hRunning.dispatch_of_fault hFault
      (fun _ => ⟨0, rfl⟩) with
    ⟨r', hDispatch, -⟩
  have hStep :
      (scripted (.fresh []) [103, 0] [5]).step =
        (.error (.fault (.immediateTarget 0 0)), r') := by
    rw [step, if_neg (by decide), hDispatch]
    rw [Fault.raised, if_pos hWritable]
  exact
    ⟨rfl, r', hStep,
      (failures_framed _ rfl).1 _ r' hStep⟩

end Rig

end IntcodeMachine
