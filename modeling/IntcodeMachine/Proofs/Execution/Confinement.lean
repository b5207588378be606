import IntcodeMachine.Operation.Procedure
import IntcodeMachine.Proofs.Execution.Invariants
import IntcodeMachine.Proofs.Execution.Replacement
import IntcodeMachine.Proofs.Execution.Replies

/-
  This file proves that an operation that writes through its
  own parameters alone can change only the cells that its
  position parameters point to.

  This holds also for operations that fail half-way, and for
  those that catch failures. So it is with every procedure.
  A word that is written through an immediate parameter, or
  through one that points outside the tape, is refused. Then
  what was written before stays, and nothing else is changed.

  Main declarations:
    * `Action.Confined`
    * `Procedure.confined_action`
    * `Table.Confined`
    * `Rig.Leaves.pointsTo`
    * `Rig.Pending`
    * `Rig.Refused`
    * `Rig.step_confined`
-/

------------------------------------------------------------
-- Operations On Their Own Parameters
------------------------------------------------------------

namespace IntcodeMachine

/- The action writes through its own parameters alone. -/
def Action.Confined (a : Action) : Prop :=
  ∀ site, a.Obeys site (fun _ => True) (· ∈ site.parameters)

/- So do all operations of the table. -/
def Table.Confined (t : Table) : Prop :=
  ∀ k o, t.entry k = some o → o.action.Confined

namespace Procedure

variable {site : Action.Site}

/- To evaluate an expression is to write nothing. -/
theorem Expr.obeys_evaluate
    {next : Int → Action}
    {replies : Reply → Prop}
    {targets : Parameter → Prop}
    (e : Expr)
    (hNext : ∀ n, (next n).Obeys site replies targets) :
    (e.evaluate next).Obeys site replies targets := by
  induction e generalizing next with
  | literal n => exact hNext n
  | counter => exact hNext _
  | value slot => exact Action.obeys_valueOf slot hNext
  | raw slot =>
      exact Action.obeys_parameter slot fun _ _ => hNext _
  | immediate slot =>
      exact Action.obeys_parameter slot fun _ _ => hNext _
  | binary f a b iha ihb =>
      exact iha fun _ => ihb fun _ => hNext _

theorem Answer.obeys_action
    (targets : Parameter → Prop)
    (a : Answer) :
    a.action.Obeys site (fun _ => True) targets := by
  induction a with
  | reply r => trivial
  | jump e => exact e.obeys_evaluate fun _ => trivial
  | advance e => exact e.obeys_evaluate fun _ => trivial
  | choose e yes no ihYes ihNo =>
      refine e.obeys_evaluate fun n => ?_
      split
      · exact ihYes
      · exact ihNo

theorem Statement.obeys_action
    {next : Action}
    (call : Int)
    (s : Statement)
    (hNext :
      next.Obeys site (fun _ => True)
        (· ∈ site.parameters)) :
    (s.action call next).Obeys site (fun _ => True)
      (· ∈ site.parameters) := by
  cases s with
  | write slot e =>
      exact
        e.obeys_evaluate fun n =>
          Action.obeys_writeTo slot n hNext
  | emit sink e =>
      exact
        e.obeys_evaluate fun n =>
          Action.obeys_emitTo sink n hNext
  | fail text => trivial
  | pause calls =>
      rw [Statement.action]
      split
      · trivial
      · exact hNext

/- Whatever its statements are, a procedure is confined. -/
theorem confined_action
    (p : Procedure)
    (tally : Nat) :
    (p.action tally).Confined := by
  intro site b
  rw [Action.Obeys]
  induction p.statements with
  | nil => exact p.answer.obeys_action _
  | cons s rest ih => exact s.obeys_action _ ih

end Procedure

namespace Table

/- The standard operations are confined. -/
theorem confined_standard
    (source : Source)
    (sink : Sink) :
    (standard source sink).Confined := by
  intro k o hEntry site
  rcases standard_cases hEntry with ⟨-, rfl⟩ | hObeys
  · trivial
  · exact (hObeys site).mono (fun _ _ => trivial)

theorem Confined.set
    {t : Table}
    {o : Operation}
    (hConfined : t.Confined)
    (hAction : o.action.Confined)
    (k : Opcode) :
    (t.set k o).Confined :=
  entries_set hConfined hAction k

end Table

------------------------------------------------------------
-- The Tape After A Step
------------------------------------------------------------

/- A position parameter of the site is this address. -/
def Action.Site.PointsTo
    (site : Site)
    (address : Int) : Prop :=
  ∃ p ∈ site.parameters, p.mode = .position ∧ p.raw = address

/- The instruction at the counter points to the address. -/
def Machine.PointsTo
    (m : Machine)
    (address : Int) : Prop :=
  ∃ i ps,
    m.decode = .ok i ∧ m.operands i = .ok ps ∧
      Action.Site.PointsTo ⟨i, ps⟩ address

namespace Rig

variable {r : Rig}

/- A cell that is changed is one that is pointed to. -/
theorem Leaves.pointsTo
    {t : Tape}
    {k : Nat}
    (hLeaves : r.Leaves t)
    (hConfined : r.machine.table.Confined)
    (hChanged : t.cells[k]? ≠ r.machine.tape.cells[k]?) :
    r.machine.PointsTo k ∧ r.machine.tape.Contains k := by
  cases hLeaves with
  | same => exact absurd rfl hChanged
  | action hFetch hOperands =>
      rename_i o i ps
      have hEntry := (Machine.fetch_eq_ok_iff.mp hFetch).entry
      have hDecode : r.machine.decode = .ok i := by
        rw [Machine.decode, hFetch]
      rcases o.action.settles ⟨i, ps⟩ r.bench with
        ⟨ws, a, b, hGoes, hFinal⟩
      rw [hGoes.run_eq, hFinal.run_bench, hGoes.tape_eq]
        at hChanged
      rcases Tape.mem_of_overwrite_ne hGoes.contains hChanged
        with ⟨w, hMember, hAddress⟩
      rw [← hAddress]
      exact
        ⟨⟨i, ps, hDecode, hOperands,
            hGoes.pointed (hConfined _ _ hEntry _) w hMember⟩,
          hGoes.contains w hMember⟩

------------------------------------------------------------
-- Words That Are Not Written
------------------------------------------------------------

/-
  The operation of the next instruction has written these
  words, and this action is left to do on this bench.
-/
inductive Pending
    (r : Rig) :
    List (Int × Int) → Action → Action.Bench → Prop where
| intro
    {o : Operation} {i : Instruction} {ps : List Parameter}
    {a : Action} {ws : List (Int × Int)} {b : Action.Bench}
    (hState : r.machine.state ≠ .halted)
    (hFetch : r.machine.fetch = .ok (o, i))
    (hOperands : r.machine.operands i = .ok ps)
    (hGoes : Action.Goes ⟨i, ps⟩ o.action r.bench ws a b) :
    Pending r ws a b

namespace Pending

variable {ws : List (Int × Int)} {a : Action}
variable {p : Parameter} {word : Int}
variable {next : Except Failure Unit → Action}
variable {b : Action.Bench} {e : Failure}

/- What was written by then is on the tape. -/
theorem tape_eq
    (hPending : r.Pending ws a b) :
    b.tape = r.machine.tape.overwrite ws := by
  cases hPending with
  | intro hState hFetch hOperands hGoes => exact hGoes.tape_eq

/- If the action fails, the step raises its failure. -/
theorem step_of_refuse
    (hPending : r.Pending ws (.refuse e) b) :
    r.step = (.error e, (r.enter .running).afterAction b) := by
  cases hPending with
  | intro hState hFetch hOperands hGoes =>
      rename_i o i ps
      have hFetched := Machine.fetch_eq_ok_iff.mp hFetch
      have hArity := (hFetched.operands_ok hOperands).1
      have hExecute :
          o.execute ⟨i, ps⟩ r.bench = (.error e, b) := by
        rw [Operation.execute, if_pos hArity, hGoes.run_eq]
        rfl
      have hDispatch :
          (r.enter .running).dispatch =
            (.error e, (r.enter .running).afterAction b) := by
        rw [dispatch,
          show (r.enter .running).machine.fetch = _
            from hFetch]
        dsimp only
        rw [show (r.enter .running).machine.operands i = _
          from hOperands]
        dsimp only
        rw [show Action.Bench.mk
            (r.enter .running).machine.tape
            (r.enter .running).host = r.bench from rfl,
          hExecute]
      rw [step_eq_dispatch hState, hDispatch]
      rfl

/-
  If the tape takes no word, the request to write is answered
  by the failure, and nothing is changed.
-/
theorem answer_of_store
    (hPending : r.Pending ws (.write p word next) b)
    (hRefused :
      ∀ (i : Instruction) (ps : List Parameter),
        i.address = r.machine.pointer →
          Action.store ⟨i, ps⟩ b.tape p word = .error e) :
    r.Pending ws (next (.error e)) b := by
  cases hPending with
  | intro hState hFetch hOperands hGoes =>
      rename_i o i ps
      have hAddress := (Machine.fetch_eq_ok_iff.mp hFetch).address
      have hLast :=
        hGoes.trans
          (.next (.refused (hRefused i ps hAddress))
            (.here _ _))
      rw [List.append_nil, List.append_nil] at hLast
      exact .intro hState hFetch hOperands hLast

/- Through an immediate parameter, no word is written. -/
theorem answer_of_immediate
    (hPending : r.Pending ws (.write p word next) b)
    (hMode : p.mode = .immediate)
    (hWritable : Numeral.Writable r.machine.pointer) :
    r.Pending ws
      (next
        (.error
          (.fault
            (.immediateTarget p.position r.machine.pointer))))
      b := by
  refine hPending.answer_of_store fun i ps hAddress => ?_
  rw [Action.store_immediate hMode, hAddress, Fault.raised,
    if_pos]
  exact List.forall_mem_singleton.mpr hWritable

/- Neither is one outside the tape. -/
theorem answer_of_outside
    (hPending : r.Pending ws (.write p word next) b)
    (hMode : p.mode = .position)
    (hOutside : ¬ r.machine.tape.Contains p.raw) :
    r.Pending ws
      (next (.error (r.machine.tape.outOfBounds p.raw))) b := by
  have hSize : b.tape.size = r.machine.tape.size := by
    rw [hPending.tape_eq, Tape.size_overwrite]
  refine hPending.answer_of_store fun i ps _ => ?_
  rw [Tape.Contains, ← hSize] at hOutside
  rw [Action.store_outside hMode hOutside, Tape.outOfBounds,
    Tape.outOfBounds, hSize]

end Pending

/-
  The request of an action is answered by the failure, and
  nothing is changed by it. The step raises the failure,
  unless the action catches it.
-/
structure Refused
    (r : Rig)
    (ws : List (Int × Int))
    (next : Except Failure Unit → Action)
    (b : Action.Bench)
    (e : Failure) : Prop where
  pending : r.Pending ws (next (.error e)) b
  raised :
    next (.error e) = .refuse e →
      r.step = (.error e, (r.enter .running).afterAction b)

theorem Pending.refused
    {ws : List (Int × Int)}
    {next : Except Failure Unit → Action}
    {b : Action.Bench}
    {e : Failure}
    (hPending : r.Pending ws (next (.error e)) b) :
    r.Refused ws next b e where
  pending := hPending
  raised hUncaught := by
    rw [hUncaught] at hPending
    exact hPending.step_of_refuse

------------------------------------------------------------
-- Confinement
------------------------------------------------------------

/-
  Whatever a step returns or raises, the tape keeps its size.
  If the operations of the table write through their own
  parameters alone, only cells that a position parameter of
  the decoded instruction points to are changed. An action
  that fails leaves what it has written by then. To write
  through an immediate parameter is refused with a fault that
  names its position, and so is to write outside the tape,
  unless the address has too many digits to be shown; no cell
  changes by that. The address of the instruction is below
  the size of the tape, so it can be shown for the tape of any
  computer.
-/
theorem step_confined
    (r : Rig) :
    r.step.2.machine.tape.size = r.machine.tape.size ∧
    (r.machine.table.Confined →
      (∀ k : Nat,
        r.step.2.machine.tape.cells[k]? ≠
            r.machine.tape.cells[k]? →
          r.machine.PointsTo k ∧
            r.machine.tape.Contains k) ∧
      ∀ i ps (k : Nat),
        r.machine.decode = .ok i →
        r.machine.operands i = .ok ps →
        (∀ p ∈ ps, p.raw = k → p.mode = .immediate) →
          r.step.2.machine.tape.cells[k]? =
            r.machine.tape.cells[k]?) ∧
    (∀ ws e b,
      r.Pending ws (.refuse e) b →
        b.tape = r.machine.tape.overwrite ws ∧
        r.step =
          (.error e, (r.enter .running).afterAction b)) ∧
    (∀ ws p word next b,
      r.Pending ws (.write p word next) b →
        b.tape = r.machine.tape.overwrite ws ∧
        (p.mode = .immediate →
          Numeral.Writable r.machine.pointer →
            r.Refused ws next b
              (.fault
                (.immediateTarget p.position
                  r.machine.pointer))) ∧
        (p.mode = .position →
          ¬ r.machine.tape.Contains p.raw →
            r.Refused ws next b
              (if Numeral.Writable p.raw then
                .fault
                  (.outOfBounds p.raw r.machine.tape.size)
              else .unwritable))) ∧
    (∀ i ps (slot : Nat) p,
      r.machine.operands i = .ok ps →
      ps[slot]? = some p →
        p.position = slot) := by
  refine
    ⟨r.step_leaves.size_eq, fun hConfined => ?_, ?_, ?_,
      fun i ps slot p => Machine.position_of_operands⟩
  · have hPoints
        {k : Nat}
        (hChanged :
          r.step.2.machine.tape.cells[k]? ≠
            r.machine.tape.cells[k]?) :
        r.machine.PointsTo k ∧ r.machine.tape.Contains k :=
      r.step_leaves.pointsTo hConfined hChanged
    refine ⟨fun k => hPoints, ?_⟩
    intro i ps k hDecode hOperands hImmediate
    refine Classical.byContradiction fun hChanged => ?_
    rcases (hPoints hChanged).1 with
      ⟨i₁, ps₁, hDecode₁, hOperands₁, p, hMember, hMode, hRaw⟩
    rw [hDecode, Except.ok.injEq] at hDecode₁
    subst i₁
    rw [hOperands, Except.ok.injEq] at hOperands₁
    subst ps₁
    rw [hImmediate p hMember hRaw] at hMode
    simp at hMode
  · intro ws e b hPending
    exact ⟨hPending.tape_eq, hPending.step_of_refuse⟩
  · intro ws p word next b hPending
    refine ⟨hPending.tape_eq, ?_, ?_⟩
    · intro hMode hWritable
      exact
        (hPending.answer_of_immediate hMode hWritable).refused
    · intro hMode hOutside
      rw [← Tape.outOfBounds_eq]
      exact
        (hPending.answer_of_outside hMode hOutside).refused

end Rig

/- A procedure that writes through both its parameters. -/
def Procedure.writeBoth : Procedure where
  statements :=
    [.write 0 (.literal 7), .write 1 (.literal 8)]
  answer := .reply .nothing

/- The standard table with that procedure under opcode five. -/
def Table.withWrites : Table :=
  onConsole.set 5
    (Operation.jumpIfNonzero.withAction
      (Procedure.writeBoth.action 0))

namespace Rig

/-
  The first word is written over the word of the instruction
  itself, and stays there. The second one is refused by an
  immediate parameter, and by one outside the tape. No other
  cell is changed.
-/
theorem writes_confined :
    (∃ r r',
      r = loaded ⟨[1005, 0, 2]⟩ .withWrites false (.fresh []) ∧
      r.step = (.error (.fault (.immediateTarget 1 0)), r') ∧
      r'.machine.tape.cells = [7, 0, 2] ∧
      r.machine.PointsTo 0 ∧
      r'.machine.tape.cells[2]? = some 2) ∧
    (∃ r',
      (loaded ⟨[5, 0, 3]⟩ .withWrites false
          (.fresh [])).step =
        (.error (.fault (.outOfBounds 3 3)), r') ∧
      r'.machine.tape.cells = [7, 0, 3]) := by
  have hConfined : Table.withWrites.Confined :=
    (Table.confined_standard .standard .standard).set
      (Procedure.writeBoth.confined_action 0) 5
  constructor
  · have hPending :
        (loaded ⟨[1005, 0, 2]⟩ .withWrites false
            (.fresh [])).Pending [(0, 7)]
          (.write ⟨2, 1, .immediate⟩ 8
            (Action.orFail fun _ => .advance))
          ⟨⟨[7, 0, 2]⟩, .fresh []⟩ :=
      .intro RunState.noConfusion rfl rfl
        (.next .look
          (.next .keep
            (.next .inspect
              (.next (.written rfl)
                (.next .inspect (.here _ _))))))
    have hZero : Numeral.Writable 0 :=
      Numeral.lt_ceiling_of_lt_ten (by decide)
    have hParts :=
      step_confined
        (loaded ⟨[1005, 0, 2]⟩ .withWrites false (.fresh []))
    rcases hParts with ⟨-, hCells, -, hWrites, -⟩
    have hStep :=
      ((hWrites _ _ _ _ _ hPending).2.1 rfl hZero).raised rfl
    rcases hCells hConfined with ⟨hPoints, hKept⟩
    refine ⟨_, _, rfl, hStep, rfl, ?_, ?_⟩
    · refine (hPoints 0 ?_).1
      rw [hStep]
      decide
    · have hTwo := hKept _ _ 2 rfl rfl (by decide)
      rw [hStep] at hTwo
      exact hTwo
  · have hPending :
        (loaded ⟨[5, 0, 3]⟩ .withWrites false
            (.fresh [])).Pending [(0, 7)]
          (.write ⟨3, 1, .position⟩ 8
            (Action.orFail fun _ => .advance))
          ⟨⟨[7, 0, 3]⟩, .fresh []⟩ :=
      .intro RunState.noConfusion rfl rfl
        (.next .look
          (.next .keep
            (.next .inspect
              (.next (.written rfl)
                (.next .inspect (.here _ _))))))
    have hThree : Numeral.Writable 3 :=
      Numeral.lt_ceiling_of_lt_ten (by decide)
    have hRefused :=
      ((step_confined _).2.2.2.1 _ _ _ _ _ hPending).2.2 rfl
        (by decide)
    rw [if_pos hThree] at hRefused
    exact ⟨_, hRefused.raised rfl, rfl⟩

end Rig

end IntcodeMachine
