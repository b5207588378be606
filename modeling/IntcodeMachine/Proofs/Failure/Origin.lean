import IntcodeMachine.Proofs.Execution.Fetching
import IntcodeMachine.Proofs.Failure.Stages

/-
  This file says where the failure of an instruction comes
  from.

  The machine itself raises faults, that an integer cannot
  be written, and that a reply or a signal is none of those
  it knows. Everything else that an instruction raises is
  raised by the action of its operation.

  Main declarations:
    * `Failure.OfMachine`
    * `Rig.Refuses`
    * `Rig.dispatch_error_origin`
-/

------------------------------------------------------------
-- Failures Of The Machine
------------------------------------------------------------

namespace IntcodeMachine

/- The machine raises the failure by itself. -/
inductive Failure.OfMachine : Failure → Prop where
| fault (f : Fault) : OfMachine f.raised
| unwritable : OfMachine .unwritable
| notASignal (name answer : String) :
    OfMachine (.notASignal name answer)
| unknownSignal : OfMachine .unknownSignal

/- That it counts parameters wrongly is none of them. -/
theorem Failure.OfMachine.not_parameterCount
    {e : Failure}
    {name : String}
    {arity given : Nat}
    (hMachine : e.OfMachine) :
    e ≠ .parameterCount name arity given := by
  cases hMachine with
  | fault f =>
      intro hSame
      rcases (f.eq_raised_iff _).mp hSame.symm with
        ⟨-, hFault⟩ | ⟨-, hUnwritable⟩
      · exact Failure.noConfusion hFault
      · exact Failure.noConfusion hUnwritable
  | unwritable => exact Failure.noConfusion
  | notASignal name answer => exact Failure.noConfusion
  | unknownSignal => exact Failure.noConfusion

variable {e : Failure}

------------------------------------------------------------
-- Reading An Instruction
------------------------------------------------------------

theorem Tape.read_error
    {t : Tape}
    {address : Int}
    (hRead : t.read address = .error e) :
    e.OfMachine := by
  unfold read at hRead
  split at hRead
  · simp at hRead
  · rw [← Except.error.inj hRead]
    exact .fault _

theorem Tape.readAll_error
    {t : Tape}
    {addresses : List Int}
    (hRead : t.readAll addresses = .error e) :
    e.OfMachine := by
  induction addresses with
  | nil => simp [readAll] at hRead
  | cons a rest ih =>
      rw [readAll] at hRead
      rcases hFirst : t.read a with e₁ | n
      · rw [hFirst] at hRead
        rw [← Except.error.inj hRead]
        exact read_error hFirst
      · rcases hRest : t.readAll rest with e₁ | ns
        · simp only [hFirst, hRest] at hRead
          rw [Except.error.inj hRead] at hRest
          exact ih hRest
        · simp [hFirst, hRest] at hRead

theorem opcodeOf_error
    {word : Int}
    {address : Option Int}
    (hOpcode : opcodeOf word address = .error e) :
    e.OfMachine := by
  unfold opcodeOf at hOpcode
  split at hOpcode
  · rw [← Except.error.inj hOpcode]
    exact .fault _
  · simp at hOpcode

theorem Table.lookup_error
    {t : Table}
    {n : Int}
    {address : Option Int}
    (hLookup : t.lookup n address = .error e) :
    e.OfMachine := by
  unfold lookup at hLookup
  split at hLookup
  · simp at hLookup
  · rw [← Except.error.inj hLookup]
    exact .fault _

theorem modesFrom_error
    {word address : Int}
    {position count : Nat}
    (hModes :
      modesFrom word address position count = .error e) :
    e.OfMachine := by
  induction count generalizing position with
  | zero => simp [modesFrom] at hModes
  | succ count ih =>
      rw [modesFrom] at hModes
      rcases hFirst :
          parameterMode word position (some address) with
        e₁ | mode
      · rw [hFirst] at hModes
        rw [← Except.error.inj hModes]
        unfold parameterMode at hFirst
        dsimp only at hFirst
        split at hFirst
        · simp at hFirst
        · rw [← Except.error.inj hFirst]
          exact .fault _
      · rcases hRest :
            modesFrom word address (position + 1) count with
          e₁ | rest
        · simp only [hFirst, hRest] at hModes
          rw [Except.error.inj hModes] at hRest
          exact ih hRest
        · simp [hFirst, hRest] at hModes

namespace Machine

variable {m : Machine} {i : Instruction}

theorem fetch_error
    (hFetch : m.fetch = .error e) :
    e.OfMachine := by
  unfold fetch at hFetch
  rcases hRead : m.tape.read m.pointer with e₁ | word
  · simp only [hRead] at hFetch
    exact Except.error.inj hFetch ▸ Tape.read_error hRead
  · rcases hOpcode : opcodeOf word (some m.pointer) with
      e₁ | k
    · simp only [hRead, hOpcode] at hFetch
      exact Except.error.inj hFetch ▸ opcodeOf_error hOpcode
    · rcases hLookup :
          m.table.lookup k (some m.pointer) with
        e₁ | o
      · simp only [hRead, hOpcode, hLookup] at hFetch
        exact
          Except.error.inj hFetch ▸
            Table.lookup_error hLookup
      · simp only [hRead, hOpcode, hLookup,
          Instruction.decode] at hFetch
        rcases hModes :
            modesFrom word m.pointer 0 o.arity with
          e₁ | modes
        · simp only [hModes] at hFetch
          exact
            Except.error.inj hFetch ▸ modesFrom_error hModes
        · simp [hModes] at hFetch

theorem operands_error
    (hOperands : m.operands i = .error e) :
    e.OfMachine := by
  unfold operands at hOperands
  rcases hRead : m.tape.readAll i.operandAddresses with
    e₁ | raws
  · simp only [hRead] at hOperands
    exact
      Except.error.inj hOperands ▸ Tape.readAll_error hRead
  · simp [hRead] at hOperands

end Machine

------------------------------------------------------------
-- Concluding An Instruction
------------------------------------------------------------

theorem Operation.signalOf_error
    {name : String}
    {i : Instruction}
    {reply : Reply}
    (hSignal : signalOf name i reply = .error e) :
    e.OfMachine := by
  cases reply with
  | nothing => simp [signalOf] at hSignal
  | signal s => simp [signalOf] at hSignal
  | other v =>
      rw [signalOf] at hSignal
      rcases hWritten : v.written with e₁ | answer
      · simp only [hWritten, Except.error.injEq] at hSignal
        rw [← hSignal]
        unfold Value.written at hWritten
        split at hWritten
        · simp at hWritten
        · rw [← Except.error.inj hWritten]
          exact .unwritable
      · simp only [hWritten, Except.error.injEq] at hSignal
        rw [← hSignal]
        exact .notASignal name answer

theorem Signal.refusal_ofMachine
    {s : Signal}
    {t : Tape}
    (hRefusal : s.refusal? t = some e) :
    e.OfMachine := by
  cases s with
  | jump address =>
      rw [refusal?] at hRefusal
      split at hRefusal
      · simp at hRefusal
      · rw [← Option.some.inj hRefusal]
        exact .fault _
  | unknown =>
      rw [← Option.some.inj hRefusal]
      exact .unknownSignal
  | advance length => simp [refusal?] at hRefusal
  | halt => simp [refusal?] at hRefusal
  | suspend => simp [refusal?] at hRefusal

namespace Rig

variable {r r' : Rig}

theorem complete_error
    {o : Operation}
    {ps : List Parameter}
    {s : Signal}
    (hComplete : r.complete o ps s = (.error e, r')) :
    e.OfMachine := by
  unfold complete at hComplete
  rcases r.counted.traced_cases
      ⟨r.machine.pointer, o.name, ps, s⟩ with
    hUnwritable | ⟨h, hNoted⟩
  · simp only [hUnwritable, Prod.mk.injEq,
      Except.error.injEq] at hComplete
    rw [← hComplete.1]
    exact .unwritable
  · simp only [hNoted] at hComplete
    split at hComplete
    · rename_i hApply
      rw [Prod.mk.injEq, Except.error.injEq] at hComplete
      rw [← hComplete.1]
      exact Signal.refusal_ofMachine (apply_error hApply).2
    · simp at hComplete

------------------------------------------------------------
-- Where Failures Come From
------------------------------------------------------------

/-
  The next instruction has as many parameters as its
  operation takes, and the action raises the failure.
-/
def Refuses
    (r : Rig)
    (e : Failure) : Prop :=
  ∃ o i ps b,
    r.machine.Fetched o i ∧
      r.machine.operands i = .ok ps ∧
      ps.length = o.arity ∧
      o.action.run ⟨i, ps⟩ r.bench = (.error e, b)

/-
  An instruction raises a failure of the machine, or the one
  that its own action raises.
-/
theorem dispatch_error_origin
    (hDispatch : r.dispatch = (.error e, r')) :
    e.OfMachine ∨ r.Refuses e := by
  unfold dispatch at hDispatch
  rcases hFetch : r.machine.fetch with e₁ | ⟨o, i⟩
  · simp only [hFetch, Prod.mk.injEq, Except.error.injEq]
      at hDispatch
    exact Or.inl (hDispatch.1 ▸ Machine.fetch_error hFetch)
  · rcases hOperands : r.machine.operands i with e₁ | ps
    · simp only [hFetch, hOperands, Prod.mk.injEq,
        Except.error.injEq] at hDispatch
      exact
        Or.inl
          (hDispatch.1 ▸ Machine.operands_error hOperands)
    · have hFetched := Machine.fetch_eq_ok_iff.mp hFetch
      have hArity := (hFetched.operands_ok hOperands).1
      simp only [hFetch, hOperands, Operation.execute,
        if_pos hArity] at hDispatch
      rcases hAction : o.action.run ⟨i, ps⟩ r.bench with
        ⟨e₁ | reply, b⟩
      · rw [bench] at hAction
        simp only [hAction, Prod.mk.injEq,
          Except.error.injEq] at hDispatch
        rw [← hDispatch.1]
        exact
          Or.inr
            ⟨o, i, ps, b, hFetched, hOperands, hArity,
              hAction⟩
      · rw [bench] at hAction
        simp only [hAction] at hDispatch
        refine Or.inl ?_
        rcases hSignal : Operation.signalOf o.name i reply
          with e₁ | s
        · simp only [hSignal, Prod.mk.injEq,
            Except.error.injEq] at hDispatch
          exact
            hDispatch.1 ▸ Operation.signalOf_error hSignal
        · simp only [hSignal] at hDispatch
          exact complete_error hDispatch

end Rig

end IntcodeMachine
