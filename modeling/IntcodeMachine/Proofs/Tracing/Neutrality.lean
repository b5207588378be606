import IntcodeMachine.Proofs.Execution.Invariants
import IntcodeMachine.Proofs.Tracing.Agreement
import IntcodeMachine.Proofs.Simulation.Scripted
import Mathlib.Data.Option.Defs

/-
  This file says when tracing a machine makes no difference
  but for the trace and the log.

  The line of an instruction is written when its operation
  has done its work and it is counted, and before its signal
  is applied. An instruction is illegible if its line shows
  an integer that cannot be written. A machine that traces
  stops there, and does the same work again when it goes on.
  Everything else is done alike.

  Main declarations:
    * `Rig.Illegible`
    * `Rig.dispatch_alike_iff`
    * `Rig.loop_alike`
    * `Rig.calls_alike`
    * `Rig.tracing_neutral`
-/

------------------------------------------------------------
-- Lines That Cannot Be Written
------------------------------------------------------------

namespace IntcodeMachine

namespace Rig

variable {r r' r₁ r₂ : Rig}

/- The line of the trace for an answered instruction. -/
def line
    (r : Rig)
    (x : Answered) : Trace.Line :=
  ⟨r.machine.pointer, x.operation.name, x.parameters,
    x.signal⟩

/-
  The next instruction gives a signal, its line cannot be
  written, and the machine does not refuse the signal for
  the same reason.
-/
def Illegible (r : Rig) : Prop :=
  ∃ x r₁,
    r.attempt = (.ok x, r₁) ∧ ¬ (r.line x).Writable ∧
      x.signal.refusal? r₁.machine.tape ≠ some .unwritable

/- Whether an instruction is illegible is seen without trace. -/
theorem Agrees.illegible
    (hAgrees : r₁.Agrees r₂)
    (hIllegible : r₁.Illegible) :
    r₂.Illegible := by
  rcases hIllegible with ⟨x, r₁', hAttempt, hLine, hSignal⟩
  rcases hAgrees.attempt.parts with
    ⟨y, s₁, s₂, hFirst, hSecond, hLeft⟩
  rw [hAttempt, Prod.mk.injEq] at hFirst
  rcases hFirst with ⟨rfl, rfl⟩
  refine ⟨x, s₂, hSecond, ?_, ?_⟩
  · rw [line, ← hAgrees.machine.2.2.1]
    exact hLine
  · rw [← hLeft.machine.1]
    exact hSignal

------------------------------------------------------------
-- One Instruction
------------------------------------------------------------

/- What comes of a signal, once its line is dealt with. -/
def settle
    (r : Rig)
    (s : Signal) : Except Failure Signal × Rig :=
  match r.apply s with
  | (.error e, r') => (.error e, r')
  | (.ok _, r') => (.ok s, r')

theorem Agrees.settle
    (hAgrees : r₁.Agrees r₂)
    (s : Signal) :
    Alike Agrees (r₁.settle s) (r₂.settle s) := by
  rcases (hAgrees.apply s).parts with
    ⟨x, r₁', r₂', hFirst, hSecond, hLeft⟩
  simp only [Rig.settle, hFirst, hSecond]
  cases x with
  | error e => exact ⟨rfl, hLeft⟩
  | ok u => exact ⟨rfl, hLeft⟩

/- Of all signals, those refused come to a failure. -/
theorem alike_settle_iff
    (r : Rig)
    (s : Signal)
    {e : Failure} :
    Alike Agrees (.error e, r) (r.settle s) ↔
      s.refusal? r.machine.tape = some e := by
  constructor
  · intro hAlike
    rcases hApply : r.apply s with ⟨e₁ | u, r'⟩
    · simp only [settle, hApply] at hAlike
      rw [Except.error.inj hAlike.1]
      exact (apply_error hApply).2
    · simp only [settle, hApply] at hAlike
      simp [Alike] at hAlike
  · intro hRefusal
    rw [settle, apply_of_refusal hRefusal]
    exact ⟨rfl, rfl⟩

/- An attempt leaves the counter where it is. -/
theorem attempt_pointer
    (r : Rig) :
    r.attempt.2.machine.pointer = r.machine.pointer := by
  rcases r.attempt_machine with ⟨t, hMachine⟩
  rw [hMachine]

/- After an attempt, its line is written if one is kept. -/
theorem dispatch_of_attempt
    {x : Answered}
    (hAttempt : r.attempt = (.ok x, r₁)) :
    r.dispatch =
      match r₁.counted.traced (r.line x) with
      | (.error e, r') => (.error e, r')
      | (.ok _, r') => r'.settle x.signal := by
  have hPointer := r.attempt_pointer
  rw [hAttempt] at hPointer
  dsimp only at hPointer
  rw [dispatch_eq_attempt, hAttempt, line, ← hPointer]
  rfl

/- A traced instruction stops at a line it cannot write. -/
theorem dispatch_of_unwritable
    {x : Answered}
    (hTracing : r.machine.tracing = true)
    (hAttempt : r.attempt = (.ok x, r₁))
    (hLine : ¬ (r.line x).Writable) :
    r.dispatch = (.error .unwritable, r₁.counted) := by
  have hKept := r.attempt_tracing
  rw [hAttempt] at hKept
  have hOn : r₁.counted.machine.tracing = true :=
    hKept.trans hTracing
  rw [dispatch_of_attempt hAttempt, traced, if_pos hOn,
    if_neg hLine]

/- A line that is written changes trace and log alone. -/
theorem traced_agrees
    (r : Rig)
    {l : Trace.Line}
    (hLine : r.machine.tracing = false ∨ l.Writable) :
    ∃ r', r.traced l = (.ok (), r') ∧ r'.Agrees r := by
  unfold traced
  split
  · rename_i hTracing
    rw [hTracing] at hLine
    have hWritable : l.Writable := by simpa using hLine
    rw [if_pos hWritable]
    exact ⟨_, rfl, rfl⟩
  · exact ⟨r, rfl, rfl⟩

/- A traced instruction that writes its line, or one untraced. -/
theorem dispatch_of_writable
    {x : Answered}
    (hAttempt : r.attempt = (.ok x, r₁))
    (hLine :
      r.machine.tracing = false ∨ (r.line x).Writable) :
    Alike Agrees r.dispatch (r₁.counted.settle x.signal) := by
  have hKept := r.attempt_tracing
  rw [hAttempt] at hKept
  have hReady :
      r₁.counted.machine.tracing = false ∨
        (r.line x).Writable :=
    hLine.imp_left hKept.trans
  rcases r₁.counted.traced_agrees hReady with
    ⟨r', hTraced, hAgrees⟩
  rw [dispatch_of_attempt hAttempt, hTraced]
  exact hAgrees.settle x.signal

------------------------------------------------------------
-- With And Without A Trace
------------------------------------------------------------

/- A rig agrees with itself without trace and log. -/
theorem agrees_bare
    (r : Rig) :
    r.Agrees r.bare := rfl

/-
  An instruction is done as without a trace exactly if it
  is not traced or not illegible.
-/
theorem dispatch_alike_bare_iff
    (r : Rig) :
    Alike Agrees r.dispatch r.bare.dispatch ↔
      ¬ (r.machine.tracing = true ∧ r.Illegible) := by
  rcases r.agrees_bare.attempt.parts with
    ⟨o, r₁, r₂, hAttempt, hBare, hLeft⟩
  cases o with
  | error e =>
      have hLegible : ¬ r.Illegible := by
        rintro ⟨x, r', hOk, -⟩
        rw [hAttempt] at hOk
        simp at hOk
      rw [dispatch_of_attempt_error hAttempt,
        dispatch_of_attempt_error hBare]
      exact iff_of_true ⟨rfl, hLeft⟩ fun h => hLegible h.2
  | ok x =>
      have hUntraced :
          Alike Agrees r.bare.dispatch
            (r₁.counted.settle x.signal) :=
        (dispatch_of_writable hBare (Or.inl rfl)).trans
          (hLeft.counted.settle x.signal).symm
      by_cases hLine :
          r.machine.tracing = false ∨ (r.line x).Writable
      · refine
          iff_of_true
            ((dispatch_of_writable hAttempt hLine).trans
              hUntraced.symm) ?_
        rintro ⟨hTracing, y, r', hOk, hUnwritable, -⟩
        rw [hAttempt, Prod.mk.injEq, Except.ok.injEq] at hOk
        rcases hOk with ⟨rfl, rfl⟩
        rcases hLine with hOff | hWritable
        · simp [hTracing] at hOff
        · exact hUnwritable hWritable
      · rcases not_or.mp hLine with ⟨hOn, hUnwritable⟩
        have hTracing : r.machine.tracing = true := by
          simpa using hOn
        rw [dispatch_of_unwritable hTracing hAttempt
          hUnwritable]
        have hSettle :
            Alike Agrees (.error .unwritable, r₁.counted)
                r.bare.dispatch ↔
              x.signal.refusal? r₁.machine.tape =
                some .unwritable :=
          ⟨fun h =>
            (r₁.counted.alike_settle_iff x.signal).mp
              (h.trans hUntraced),
           fun h =>
            ((r₁.counted.alike_settle_iff x.signal).mpr
              h).trans hUntraced.symm⟩
        rw [hSettle]
        constructor
        · rintro hRefusal ⟨-, y, r', hOk, -, hOther⟩
          rw [hAttempt, Prod.mk.injEq, Except.ok.injEq]
            at hOk
          rcases hOk with ⟨rfl, rfl⟩
          exact hOther hRefusal
        · intro hNot
          by_contra hOther
          exact
            hNot
              ⟨hTracing, x, r₁, hAttempt, hUnwritable,
                hOther⟩

/- A traced instruction that is illegible is done and counted. -/
theorem dispatch_of_illegible
    (hTracing : r.machine.tracing = true)
    (hIllegible : r.Illegible) :
    r.dispatch = (.error .unwritable, r.attempt.2.counted) := by
  rcases hIllegible with ⟨x, r', hAttempt, hLine, -⟩
  rw [dispatch_of_unwritable hTracing hAttempt hLine,
    hAttempt]

/-
  An instruction is done alike on rigs that agree, unless
  one of them traces and it is illegible.
-/
theorem dispatch_alike_iff
    (hAgrees : r₁.Agrees r₂) :
    Alike Agrees r₁.dispatch r₂.dispatch ↔
      r₁.machine.tracing = r₂.machine.tracing ∨
        ¬ r₁.Illegible := by
  have hFirst := r₁.dispatch_alike_bare_iff
  have hSecond := r₂.dispatch_alike_bare_iff
  rw [← show r₁.bare = r₂.bare from hAgrees] at hSecond
  by_cases hIllegible : r₁.Illegible
  · have hOther : r₂.Illegible := hAgrees.illegible hIllegible
    simp only [hIllegible, hOther, and_true,
      Bool.not_eq_true] at hFirst hSecond
    simp only [hIllegible, not_true_eq_false, or_false]
    cases hOn₁ : r₁.machine.tracing with
    | false =>
        have hBare₁ := hFirst.mpr hOn₁
        cases hOn₂ : r₂.machine.tracing with
        | false =>
            exact
              iff_of_true
                (hBare₁.trans (hSecond.mpr hOn₂).symm) rfl
        | true =>
            refine iff_of_false (fun hAlike => ?_) (by simp)
            have hOff := hSecond.mp (hAlike.symm.trans hBare₁)
            simp [hOn₂] at hOff
    | true =>
        cases hOn₂ : r₂.machine.tracing with
        | false =>
            refine iff_of_false (fun hAlike => ?_) (by simp)
            have hOff :=
              hFirst.mp (hAlike.trans (hSecond.mpr hOn₂))
            simp [hOn₁] at hOff
        | true =>
            refine iff_of_true ?_ rfl
            rw [dispatch_of_illegible hOn₁ hIllegible,
              dispatch_of_illegible hOn₂ hOther]
            exact ⟨rfl, hAgrees.attempt.2.counted⟩
  · have hOther : ¬ r₂.Illegible := fun h =>
      hIllegible (Agrees.illegible hAgrees.symm h)
    simp only [hIllegible, hOther, and_false,
      not_false_eq_true, iff_true] at hFirst hSecond
    exact
      iff_of_true (hFirst.trans hSecond.symm)
        (Or.inr hIllegible)

/- A step of rigs that agree, likewise. -/
theorem step_alike_iff
    (hAgrees : r₁.Agrees r₂) :
    Alike Agrees r₁.step r₂.step ↔
      r₁.machine.state = .halted ∨
        r₁.machine.tracing = r₂.machine.tracing ∨
        ¬ (r₁.enter .running).Illegible := by
  have hState := hAgrees.machine.2.2.2.1
  by_cases hHalted : r₁.machine.state = .halted
  · rw [step, if_pos hHalted, step,
      if_pos (hState ▸ hHalted)]
    exact iff_of_true ⟨rfl, hAgrees⟩ (Or.inl hHalted)
  · have hDispatch :=
      dispatch_alike_iff (hAgrees.enter .running)
    have hSteps :
        Alike Agrees r₁.step r₂.step ↔
          Alike Agrees (r₁.enter .running).dispatch
            (r₂.enter .running).dispatch := by
      rw [step, if_neg hHalted, step,
        if_neg (hState ▸ hHalted)]
      rcases (r₁.enter .running).dispatch with ⟨e₁ | s₁, r⟩
      · rcases (r₂.enter .running).dispatch with
          ⟨e₂ | s₂, r'⟩ <;>
          simp [Alike]
      · rcases (r₂.enter .running).dispatch with
          ⟨e₂ | s₂, r'⟩ <;>
          simp [Alike]
    rw [hSteps, hDispatch]
    simp only [hHalted, false_or]
    exact Iff.rfl

------------------------------------------------------------
-- Runs And Calls
------------------------------------------------------------

/-
  A loop goes alike if both rigs trace or none does, or if
  there are no illegible instructions.
-/
theorem loop_alike
    (budget : Nat)
    (hAgrees : r₁.Agrees r₂)
    (hLegible :
      r₁.machine.tracing = r₂.machine.tracing ∨
        ∀ n r, Reaches n r₁ r → ¬ r.Illegible) :
    Option.Rel (Alike Agrees)
      (loop budget r₁) (loop budget r₂) := by
  refine
    loop_rel (fun s₁ s₂ h => h.machine.2.2.2.1) budget
      hAgrees fun n s₁ s₂ hFirst hSecond hSame => ?_
  refine (dispatch_alike_iff hSame).mpr (hLegible.imp ?_ ?_)
  · intro hTracing
    rw [hFirst.keeps.2, hTracing, hSecond.keeps.2]
  · exact fun hNone => hNone n s₁ hFirst

/- A run goes alike under the same condition. -/
theorem run_alike
    (budget : Nat)
    (hAgrees : r₁.Agrees r₂)
    (hLegible :
      r₁.machine.tracing = r₂.machine.tracing ∨
        ∀ r, Executes .run r₁ r → ¬ r.Illegible) :
    Option.Rel (Alike Agrees)
      (r₁.run budget) (r₂.run budget) := by
  have hState := hAgrees.machine.2.2.2.1
  by_cases hHalted : r₁.machine.state = .halted
  · rw [run, if_pos hHalted, run, if_pos (hState ▸ hHalted)]
    exact Option.Rel.some ⟨rfl, hAgrees⟩
  · rw [run, if_neg hHalted, run, if_neg (hState ▸ hHalted)]
    apply loop_alike budget hAgrees.entered
    rw [entered_machine, entered_machine]
    exact
      hLegible.imp_right fun hNone n r hReaches =>
        hNone r ⟨hHalted, n, hReaches⟩

/- So does any other call. -/
theorem call_alike
    (budget : Nat)
    (c : Call)
    (hAgrees : r₁.Agrees r₂)
    (hLegible :
      r₁.machine.tracing = r₂.machine.tracing ∨
        ∀ r, Executes c r₁ r → ¬ r.Illegible) :
    Option.Rel (Alike Agrees)
      (r₁.call budget c) (r₂.call budget c) := by
  cases c with
  | run =>
      rw [call, call]
      rcases rel_cases (run_alike budget hAgrees hLegible)
        with ⟨hFirst, hSecond⟩ |
          ⟨o, r₁', r₂', hFirst, hSecond, hLeft⟩
      · rw [hFirst, hSecond]
        exact Option.Rel.none
      · rw [hFirst, hSecond]
        exact Option.Rel.some ⟨rfl, hLeft⟩
  | step =>
      have hStep : Alike Agrees r₁.step r₂.step := by
        refine (step_alike_iff hAgrees).mpr ?_
        by_cases hHalted : r₁.machine.state = .halted
        · exact Or.inl hHalted
        · exact
            Or.inr
              (hLegible.imp_right fun hNone =>
                hNone _ ⟨hHalted, rfl⟩)
      rw [call, call, hStep.1]
      exact Option.Rel.some ⟨rfl, hStep.2⟩
  | decode =>
      rw [call, call, Machine.decode, Machine.decode,
        hAgrees.fetch]
      exact Option.Rel.some ⟨rfl, hAgrees⟩

/-
  Calls are answered alike if both rigs trace or none does,
  or if they execute no illegible instructions.
-/
theorem calls_alike
    (budget : Nat)
    (cs : List Call)
    (hAgrees : r₁.Agrees r₂)
    (hLegible :
      r₁.machine.tracing = r₂.machine.tracing ∨
        ∀ r, ExecutesIn cs r₁ r → ¬ r.Illegible) :
    Option.Rel (Alike Agrees)
      (r₁.calls budget cs) (r₂.calls budget cs) := by
  induction cs generalizing r₁ r₂ with
  | nil => exact Option.Rel.some ⟨rfl, hAgrees⟩
  | cons c rest ih =>
      have hCall :=
        call_alike budget c hAgrees
          (hLegible.imp_right fun hNone r hExecutes =>
            hNone r (ExecutesIn.now hExecutes))
      rw [calls, calls]
      rcases rel_cases hCall with
        ⟨hFirst, hSecond⟩ |
          ⟨x, r₁', r₂', hFirst, hSecond, hLeft⟩
      · rw [hFirst, hSecond]
        exact Option.Rel.none
      · have hLegibleRest :
            r₁'.machine.tracing = r₂'.machine.tracing ∨
              ∀ r, ExecutesIn rest r₁' r → ¬ r.Illegible := by
          apply hLegible.imp
          · intro hSame
            rw [(call_keeps hFirst).2, hSame,
              (call_keeps hSecond).2]
          · intro hNone r hExecutes
            exact
              hNone r (ExecutesIn.later hFirst hExecutes)
        have hRest := ih hLeft hLegibleRest
        rw [hFirst, hSecond]
        dsimp only
        rcases rel_cases hRest with
          ⟨hFirst, hSecond⟩ |
            ⟨xs, s₁, s₂, hFirst, hSecond, hLeft⟩
        · rw [hFirst, hSecond]
          exact Option.Rel.none
        · rw [hFirst, hSecond]
          exact Option.Rel.some ⟨rfl, hLeft⟩

/-
  Rigs that agree but for tracing take a step alike unless
  one traces and the instruction is illegible. Then the one
  that traces fails with the instruction done and counted,
  and its counter still there. Calls are answered alike and
  leave rigs that agree if both rigs trace or none does, or
  if they execute no illegible instruction.
-/
theorem tracing_neutral
    {r₁ r₂ : Rig}
    (hAgrees : r₁.Agrees r₂) :
    (Alike Agrees r₁.step r₂.step ↔
      r₁.machine.state = .halted ∨
        r₁.machine.tracing = r₂.machine.tracing ∨
        ¬ (r₁.enter .running).Illegible) ∧
    (r₁.machine.state ≠ .halted →
      r₁.machine.tracing = true →
      (r₁.enter .running).Illegible →
        r₁.step =
          (.error .unwritable,
            { machine :=
                { r₁.machine with
                  tape :=
                    (r₁.enter .running).attempt.2.machine.tape
                  state := .running
                  steps := r₁.machine.steps + 1 }
              host := (r₁.enter .running).attempt.2.host })) ∧
    ∀ budget cs,
      (r₁.machine.tracing = r₂.machine.tracing ∨
        ∀ r, ExecutesIn cs r₁ r → ¬ r.Illegible) →
        Option.Rel (Alike Agrees)
          (r₁.calls budget cs) (r₂.calls budget cs) := by
  refine ⟨step_alike_iff hAgrees, ?_, ?_⟩
  · intro hState hTracing hIllegible
    have hOn : (r₁.enter .running).machine.tracing = true :=
      hTracing
    rcases (r₁.enter .running).attempt_machine with
      ⟨t, hMachine⟩
    rw [step, if_neg hState,
      dispatch_of_illegible hOn hIllegible]
    rw [counted, hMachine]
    rfl
  · intro budget cs hLegible
    exact calls_alike budget cs hAgrees hLegible

/- The rig with a trace from now on. -/
def withTrace (r : Rig) : Rig :=
  { r with machine := { r.machine with tracing := true } }

/- An instruction is legible if its line shows digits. -/
theorem not_illegible_of_digits
    {x : Answered}
    (hAttempt : r.attempt = (.ok x, r₁))
    (hDigits : ∀ n ∈ (r.line x).shown, n.natAbs < 10) :
    ¬ r.Illegible := by
  rintro ⟨y, r', hOk, hUnwritable, -⟩
  rw [hAttempt, Prod.mk.injEq, Except.ok.injEq] at hOk
  rcases hOk with ⟨rfl, rfl⟩
  exact
    hUnwritable fun n hShown =>
      Numeral.lt_ceiling_of_lt_ten (hDigits n hShown)

/-
  The output of a digit is traced without other effect; that
  of an integer with too many digits is not.
-/
theorem output_tracing_neutral :
    Option.Rel (Alike Agrees)
        ((scripted (.fresh []) [104, 7, 99] []).calls 2
          [.step, .run])
        ((scripted (.fresh []) [104, 7, 99] []).withTrace.calls 2
          [.step, .run]) ∧
      ¬ Alike Agrees
          (scripted (.fresh []) [104, Numeral.ceiling, 99]
            []).step
          (scripted (.fresh []) [104, Numeral.ceiling, 99]
            []).withTrace.step := by
  constructor
  · have hAgrees :
        (scripted (.fresh []) [104, 7, 99] []).Agrees
          (scripted (.fresh []) [104, 7, 99] []).withTrace :=
      rfl
    refine
      (tracing_neutral hAgrees).2.2 2 [.step, .run]
        (Or.inr ?_)
    intro r hExecutes
    cases hExecutes with
    | now hExecutes =>
        rcases hExecutes with ⟨-, rfl⟩
        exact not_illegible_of_digits rfl (by decide)
    | later hCall hRest =>
        simp only [call, Option.some.injEq, Prod.mk.injEq]
          at hCall
        rcases hCall with ⟨-, rfl⟩
        cases hRest with
        | later hCall hRest => cases hRest
        | now hExecutes =>
            rcases hExecutes with ⟨-, n, hReaches⟩
            cases hReaches with
            | here =>
                exact not_illegible_of_digits rfl (by decide)
            | next hDispatch hGoesOn hRest =>
                -- The second instruction halts the machine.
                have hStopped :
                    (scripted (.fresh []) [104, 7, 99]
                      []).step.2.entered.dispatch.2.machine.state.isStopped =
                        true := by
                  decide
                rw [hDispatch] at hStopped
                simp [hGoesOn] at hStopped
  · have hAgrees :
        (scripted (.fresh []) [104, Numeral.ceiling, 99]
            []).Agrees
          (scripted (.fresh []) [104, Numeral.ceiling, 99]
            []).withTrace :=
      rfl
    rw [(tracing_neutral hAgrees).1]
    rintro (hHalted | hSame | hLegible)
    · exact scripted_not_halted _ _ _ hHalted
    · exact Bool.noConfusion hSame
    · refine hLegible ⟨_, _, rfl, ?_, by decide⟩
      intro hWritable
      have hCell : Numeral.Writable Numeral.ceiling :=
        hWritable _ (List.mem_cons_of_mem _ List.mem_cons_self)
      rw [Numeral.Writable, Int.natAbs_natCast] at hCell
      exact Nat.lt_irrefl _ hCell

end Rig

end IntcodeMachine
