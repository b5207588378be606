import IntcodeMachine.Proofs.Execution.Invariants
import IntcodeMachine.Proofs.Execution.Replacement
import IntcodeMachine.Proofs.Execution.Replies

/-
  This file proves that the tape keeps its size, and that
  the counter never lies further than one cell behind it.

  Advancing is not checked. It cannot pass the end of the
  tape, since all words of the instruction were read off the
  tape before its operation was executed. This holds for
  every table whose operations give only signals that the
  context of their instruction makes.

  A machine whose counter is behind the tape is stuck, and
  an instruction that runs off the tape is not executed.
  Both fail with the size of the tape as the address.

  Main declarations:
    * `Signal.MadeFor.destination_le`
    * `Rig.InBounds`
    * `Rig.kept_inBounds`
    * `Rig.Stuck`
    * `Rig.Stuck.session`
    * `Rig.step_of_truncated`
    * `Rig.calls_in_bounds`
-/

------------------------------------------------------------
-- Where Signals Lead
------------------------------------------------------------

namespace IntcodeMachine

variable {i : Instruction} {s : Signal} {t : Tape}
variable {pointer : Int}

/-
  From an instruction that lies on the tape, a signal leads
  to a cell of the tape or right behind it.
-/
theorem Signal.MadeFor.destination_le
    (hMade : s.MadeFor i)
    (hAccepted : s.refusal? t = none)
    (hInside : t.Contains pointer)
    (hFits : pointer + i.length ≤ t.size) :
    0 ≤ s.destination pointer ∧
      s.destination pointer ≤ t.size := by
  rcases hInside with ⟨hLow, hHigh⟩
  cases hMade with
  | advance =>
      rw [destination]
      exact ⟨by omega, hFits⟩
  | jump address =>
      rw [refusal?] at hAccepted
      split at hAccepted
      · rename_i hTarget
        exact ⟨hTarget.1, Int.le_of_lt hTarget.2⟩
      · simp at hAccepted
  | halt => exact ⟨hLow, Int.le_of_lt hHigh⟩
  | suspend => exact ⟨hLow, Int.le_of_lt hHigh⟩

/- A signal that halts a running machine leads nowhere. -/
theorem Signal.destination_of_halted
    (hHalted : s.stateAfter .running = .halted) :
    s.destination pointer = pointer := by
  cases s with
  | halt => rfl
  | suspend => rfl
  | unknown => rfl
  | advance length => simp [stateAfter] at hHalted
  | jump address => simp [stateAfter] at hHalted

------------------------------------------------------------
-- The Invariant
------------------------------------------------------------

namespace Rig

variable {r r' : Rig} {size : Nat}

/-
  The tape has this size, and the counter is on the tape or
  right behind it. A machine does not halt behind it.
-/
structure InBounds
    (size : Nat)
    (r : Rig) : Prop where
  contextual : r.machine.table.Contextual
  tape : r.machine.tape.size = size
  low : 0 ≤ r.machine.pointer
  high : r.machine.pointer ≤ size
  halted :
    r.machine.state = .halted → r.machine.pointer < size

/- An instruction that gives a signal keeps the bounds. -/
theorem InBounds.dispatch_ok
    (hBounds : InBounds size r)
    (hState : r.machine.state = .running)
    (hDispatch : r.dispatch = (.ok s, r')) :
    InBounds size r' := by
  rcases dispatch_ok_parts hDispatch with
    ⟨o, i, ps, b, hFetched, hOperands, hExecute, hAccepted,
      hTape⟩
  rcases dispatch_ok_moves hDispatch with
    ⟨hPointer, hAfter⟩
  have hMade : s.MadeFor i :=
    (hBounds.contextual _ _ hFetched.entry).signal
      hFetched.arity hExecute
  have hSize : b.tape.size = size :=
    (Operation.size_execute hExecute).trans hBounds.tape
  have hInside := hFetched.contains
  have hFits := (hFetched.operands_ok hOperands).2
  rw [Tape.Contains, hBounds.tape, ← hSize] at hInside
  rw [hBounds.tape, ← hSize] at hFits
  have hLeads := hMade.destination_le hAccepted hInside hFits
  rw [← hPointer, hSize] at hLeads
  refine ⟨?_, ?_, hLeads.1, hLeads.2, ?_⟩
  · rw [(dispatch_keeps hDispatch).1]
    exact hBounds.contextual
  · rw [hTape, hSize]
  · intro hHalted
    rw [hAfter, hState] at hHalted
    rw [hPointer, Signal.destination_of_halted hHalted,
      ← hSize]
    exact hInside.2

/- An instruction that fails keeps the bounds. -/
theorem InBounds.dispatch_error
    {e : Failure}
    (hBounds : InBounds size r)
    (hDispatch : r.dispatch = (.error e, r')) :
    InBounds size r' := by
  rcases dispatch_error_stays hDispatch with
    ⟨hPointer, hAfter⟩
  refine ⟨?_, ?_, ?_, ?_, ?_⟩
  · rw [(dispatch_keeps hDispatch).1]
    exact hBounds.contextual
  · rw [dispatch_size hDispatch]
    exact hBounds.tape
  · rw [hPointer]
    exact hBounds.low
  · rw [hPointer]
    exact hBounds.high
  · rw [hPointer, hAfter]
    exact hBounds.halted

/- Sessions keep the bounds. -/
theorem kept_inBounds
    (size : Nat) :
    Kept (InBounds size) where
  enter _ hBounds :=
    { hBounds with halted := fun hState => by cases hState }
  host _ _ hBounds := { hBounds with }
  dispatch _ x _ hBounds hState hDispatch := by
    cases x with
    | ok s => exact hBounds.dispatch_ok hState hDispatch
    | error e => exact hBounds.dispatch_error hDispatch

/- A machine starts in bounds. -/
theorem inBounds_loaded
    {table : Table}
    (hContextual : table.Contextual)
    (tape : Tape)
    (tracing : Bool)
    (h : Host) :
    InBounds tape.size (loaded tape table tracing h) where
  contextual := hContextual
  tape := rfl
  low := Int.le_refl 0
  high := Int.natCast_nonneg _
  halted hState := by cases hState

------------------------------------------------------------
-- Stuck Machines
------------------------------------------------------------

/- The machine has not halted, and fetches no instruction. -/
structure Stuck
    (e : Failure)
    (r : Rig) : Prop where
  state : r.machine.state ≠ .halted
  fetch : r.machine.fetch = .error e

namespace Stuck

variable {e : Failure}

theorem dispatch_eq
    (hStuck : Stuck e r) :
    r.dispatch = (.error e, r) := by
  rw [dispatch, hStuck.fetch]

/- A machine that is stuck stays so when it is entered. -/
theorem of_running
    {r₀ : Rig}
    (hStuck : Stuck e r)
    (hSame :
      r₀.machine = { r.machine with state := .running }) :
    Stuck e r₀ where
  state := by
    rw [hSame]
    exact RunState.noConfusion
  fetch := by
    rw [hSame]
    exact hStuck.fetch

/- A call raises the failure, and moves nothing. -/
theorem call
    (hStuck : Stuck e r)
    (budget : Nat)
    (c : Call) :
    ∃ r',
      r.call (budget + 1) c = some (.error e, r') ∧
        Stuck e r' := by
  cases c with
  | run =>
      have hEntered := hStuck.of_running r.entered_machine
      refine ⟨r.entered, ?_, hEntered⟩
      rw [Rig.call, run, if_neg hStuck.state, loop,
        show (r.resumed.enter .running).dispatch = _
          from hEntered.dispatch_eq]
      rfl
  | step =>
      have hEntered : Stuck e (r.enter .running) :=
        hStuck.of_running rfl
      refine ⟨r.enter .running, ?_, hEntered⟩
      rw [Rig.call, step_eq_dispatch hStuck.state,
        hEntered.dispatch_eq]
      rfl
  | decode =>
      refine ⟨r, ?_, hStuck⟩
      rw [Rig.call, Machine.decode, hStuck.fetch]
      rfl

/- However small its budget is. -/
theorem of_call
    {budget : Nat}
    {c : Call}
    {x : Except Failure Answer}
    (hStuck : Stuck e r)
    (hCall : r.call budget c = some (x, r')) :
    x = .error e ∧ Stuck e r' := by
  have hSame :
      r.call budget c = none ∨
        ∃ more, r.call budget c = r.call (more + 1) c := by
    cases c with
    | run =>
        cases budget with
        | zero =>
            left
            rw [Rig.call, run, if_neg hStuck.state]
            rfl
        | succ more => exact Or.inr ⟨more, rfl⟩
    | step => exact Or.inr ⟨0, rfl⟩
    | decode => exact Or.inr ⟨0, rfl⟩
  rcases hSame with hNone | ⟨more, hSame⟩
  · simp [hNone] at hCall
  · rcases hStuck.call more c with ⟨r₁, hFails, hAfter⟩
    rw [hSame, hFails, Option.some.injEq, Prod.mk.injEq]
      at hCall
    rcases hCall with ⟨rfl, rfl⟩
    exact ⟨rfl, hAfter⟩

/- So does every call of a session. -/
theorem session
    {log : List Occasion}
    (hStuck : Stuck e r)
    (hSession : Session log r r') :
    (∀ o ∈ log, o.answer = .error e) ∧ Stuck e r' := by
  induction hSession with
  | rest r => exact ⟨List.forall_mem_nil _, hStuck⟩
  | host h _ ih => exact ih ⟨hStuck.state, hStuck.fetch⟩
  | call hCall _ ih =>
      rcases hStuck.of_call hCall with ⟨hFails, hAfter⟩
      rcases ih hAfter with ⟨hRest, hLast⟩
      exact ⟨List.forall_mem_cons.mpr ⟨hFails, hRest⟩, hLast⟩

end Stuck

/- A counter right behind the tape raises its size. -/
theorem fetch_behind
    (hWritable : Numeral.Writable r.machine.tape.size)
    (hBehind : r.machine.pointer = r.machine.tape.size) :
    r.machine.fetch =
      .error
        (.fault
          (.outOfBounds r.machine.tape.size
            r.machine.tape.size)) := by
  have hOutside :
      ¬ r.machine.tape.Contains r.machine.tape.size :=
    fun hInside => Int.lt_irrefl _ hInside.2
  rw [Machine.fetch, hBehind, Tape.read, if_neg hOutside,
    Tape.outOfBounds_of_writable hWritable]

------------------------------------------------------------
-- Truncated Instructions
------------------------------------------------------------

/- An instruction that runs off the tape executes nothing. -/
theorem idle_of_truncated
    {o : Operation}
    (hFetched : r.machine.Fetched o i)
    (hLong :
      r.machine.tape.size < r.machine.pointer + i.length) :
    r.Idle .step := by
  refine (step_idle_iff r).mpr (Or.inr ?_)
  rintro ⟨o₁, i₁, ps, hOther, hOperands⟩
  rw [Machine.fetch_eq_ok_iff.mpr hFetched, Except.ok.injEq,
    Prod.mk.injEq] at hOther
  rw [← hOther.2, hFetched.operands_truncated hLong]
    at hOperands
  simp at hOperands

/- It raises the size of the tape. -/
theorem step_of_truncated
    (hWritable : Numeral.Writable r.machine.tape.size)
    (hState : r.machine.state ≠ .halted)
    (hDecode : r.machine.decode = .ok i)
    (hLong :
      r.machine.tape.size < r.machine.pointer + i.length) :
    r.step =
        (.error
          (.fault
            (.outOfBounds r.machine.tape.size
              r.machine.tape.size)),
          r.enter .running) ∧
      r.Idle .step := by
  rcases Machine.decode_eq_ok_iff.mp hDecode with
    ⟨o, hFetched⟩
  have hFetch := Machine.fetch_eq_ok_iff.mpr hFetched
  have hOperands := hFetched.operands_truncated hLong
  rw [Tape.outOfBounds_of_writable hWritable] at hOperands
  constructor
  · have hDispatch :
        (r.enter .running).dispatch =
          (.error
            (.fault
              (.outOfBounds r.machine.tape.size
                r.machine.tape.size)),
            r.enter .running) := by
      rw [dispatch,
        show (r.enter .running).machine.fetch = _ from hFetch]
      dsimp only
      rw [show (r.enter .running).machine.operands i = _
        from hOperands]
    rw [step_eq_dispatch hState, hDispatch]
    rfl
  · exact idle_of_truncated hFetched hLong

------------------------------------------------------------
-- Any Session
------------------------------------------------------------

/-
  After any session, the tape has the size it had, and the
  counter is on the tape or right behind it. Behind the tape
  all further calls raise its size. So does the step of an
  instruction that runs off the tape, which executes no
  operation. The fault shows the size, so it has to have few
  enough digits, as the size of any list in a computer has.
-/
theorem calls_in_bounds
    {table : Table}
    (hContextual : table.Contextual)
    (tape : Tape)
    (tracing : Bool)
    (h : Host)
    {log : List Occasion}
    (hSession :
      Session log (loaded tape table tracing h) r) :
    r.machine.tape.size = tape.size ∧
    0 ≤ r.machine.pointer ∧
    r.machine.pointer ≤ tape.size ∧
    (Numeral.Writable tape.size →
      r.machine.pointer = tape.size →
      ∀ later r',
        Session later r r' →
        (∀ o ∈ later,
          o.answer =
            .error
              (.fault (.outOfBounds tape.size tape.size))) ∧
        ∀ budget c,
          ∃ r'',
            r'.call (budget + 1) c =
              some
                (.error
                  (.fault
                    (.outOfBounds tape.size tape.size)),
                  r'')) ∧
    (Numeral.Writable tape.size →
      r.machine.state ≠ .halted →
      ∀ i,
        r.machine.decode = .ok i →
        tape.size < r.machine.pointer + i.length →
        r.step =
            (.error
              (.fault (.outOfBounds tape.size tape.size)),
              r.enter .running) ∧
          r.Idle .step) := by
  have hBounds : InBounds tape.size r :=
    (kept_inBounds tape.size).session
      (inBounds_loaded hContextual tape tracing h) hSession
  refine
    ⟨hBounds.tape, hBounds.low, hBounds.high, ?_, ?_⟩
  · intro hWritable hBehind later r' hLater
    have hState : r.machine.state ≠ .halted := by
      intro hHalted
      have hInside := hBounds.halted hHalted
      omega
    rw [← hBounds.tape] at hWritable hBehind ⊢
    have hStuck : Stuck _ r :=
      ⟨hState, fetch_behind hWritable hBehind⟩
    rcases hStuck.session hLater with ⟨hAnswers, hLast⟩
    refine ⟨hAnswers, fun budget c => ?_⟩
    rcases hLast.call budget c with ⟨r'', hCall, -⟩
    exact ⟨r'', hCall⟩
  · intro hWritable hState i hDecode hLong
    rw [← hBounds.tape] at hWritable hLong ⊢
    exact step_of_truncated hWritable hState hDecode hLong

/-
  An input waits for its queue to be fed, and the cell that
  is probed then takes the counter right behind the tape. An
  addition takes it to another one, which runs off the tape.
-/
theorem probe_in_bounds :
    (∃ log r,
      Session log
        (loaded ⟨[3, 3, 4, 9]⟩ .probing false
          ((Host.fresh []).addQueue []).2) r ∧
      log.map Occasion.call = [.run, .run] ∧
      r.machine.pointer = 4 ∧
      ∀ later r',
        Session later r r' →
        (∀ o ∈ later,
          o.answer = .error (.fault (.outOfBounds 4 4))) ∧
        ∀ budget c,
          ∃ r'',
            r'.call (budget + 1) c =
              some
                (.error (.fault (.outOfBounds 4 4)), r'')) ∧
    (∃ log r i,
      Session log
        (loaded ⟨[1101, 1, 1, 0, 1101]⟩ .probing false
          (.fresh [])) r ∧
      r.machine.decode = .ok i ∧
      i.length = 4 ∧
      r.step =
          (.error (.fault (.outOfBounds 5 5)),
            r.enter .running) ∧
      r.Idle .step) := by
  constructor
  · have hFed :
        ∃ log r,
          Session log
            (loaded ⟨[3, 3, 4, 9]⟩ .probing false
              ((Host.fresh []).addQueue []).2) r ∧
          log.map Occasion.call = [.run, .run] ∧
          r.machine.pointer = 4 :=
      session_of_fed 1 3 0 [0] (by decide +kernel)
    rcases hFed with ⟨log, r, hSession, hCalls, hPointer⟩
    have hParts :=
      calls_in_bounds Table.contextual_probing _ _ _ hSession
    have hWritable :
        Numeral.Writable (Tape.size ⟨[3, 3, 4, 9]⟩) :=
      Numeral.lt_ceiling_of_lt_ten (by decide)
    exact
      ⟨log, r, hSession, hCalls, hPointer,
        hParts.2.2.2.1 hWritable hPointer⟩
  · have hSession :
        ∃ log r i,
          Session log
            (loaded ⟨[1101, 1, 1, 0, 1101]⟩ .probing false
              (.fresh [])) r ∧
          r.machine.pointer = 4 ∧
          r.machine.state = .running ∧
          r.machine.decode = .ok i ∧
          i.length = 4 :=
      ⟨[⟨0, .step, _, _⟩], _, _, .call rfl (.rest _), rfl,
        rfl, rfl, rfl⟩
    rcases hSession with
      ⟨log, r, i, hSession, hPointer, hState, hDecode,
        hLength⟩
    have hParts :=
      calls_in_bounds Table.contextual_probing _ _ _ hSession
    have hWritable :
        Numeral.Writable
          (Tape.size ⟨[1101, 1, 1, 0, 1101]⟩) :=
      Numeral.lt_ceiling_of_lt_ten (by decide)
    have hLong :
        (Tape.size ⟨[1101, 1, 1, 0, 1101]⟩ : Int) <
          r.machine.pointer + i.length := by
      rw [hPointer, hLength]
      decide
    have hTruncated :=
      hParts.2.2.2.2 hWritable
        (by rw [hState]; exact RunState.noConfusion) i
        hDecode hLong
    exact
      ⟨log, r, i, hSession, hDecode, hLength, hTruncated.1,
        hTruncated.2⟩

end Rig

end IntcodeMachine
