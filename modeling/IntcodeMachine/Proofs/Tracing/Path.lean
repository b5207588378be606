import IntcodeMachine.Proofs.Execution.Invariants
import IntcodeMachine.Proofs.Execution.Replies
import IntcodeMachine.Proofs.Tracing.Lines
import IntcodeMachine.Proofs.Tracing.Neutrality
import Mathlib.Data.List.Chain

/-
  This file proves that a trace is the path of an execution.

  Calls visit rigs, at each of which an instruction is
  executed. An instruction whose operation gives a signal
  has a line, also if the signal is refused then; one that
  fails before has none. If all lines can be written, the
  trace is the lines of the visited rigs. Between two lines
  the counter does not move, whatever the host does, so that
  each line leads to the next.

  Main declarations:
    * `Trace.Line.Leads`
    * `Rig.line?`
    * `Rig.Occasion.visits`
    * `Rig.Route`
    * `Rig.session_route`
    * `Rig.Follows`
    * `Rig.Route.follows`
    * `Rig.calls_trace`
-/

------------------------------------------------------------
-- Lines That Lead To A Counter
------------------------------------------------------------

namespace IntcodeMachine

namespace Trace.Line

/-
  On a tape of this size, the signal of the line takes the
  counter there. A jump off the tape is refused, and no
  instruction follows a halt.
-/
def Leads
    (size : Nat)
    (l : Line)
    (counter : Int) : Prop :=
  match l.signal with
  | .advance length => counter = l.counter + length
  | .jump address =>
      counter =
        if 0 ≤ address ∧ address < size then address
        else l.counter
  | .halt => False
  | .suspend => counter = l.counter
  | .unknown => counter = l.counter

/- The line is where the other one leads. -/
def Precedes
    (size : Nat)
    (l l' : Line) : Prop :=
  l.Leads size l'.counter

variable {l : Line} {t : Tape}

theorem leads_of_accepted
    (hAccepted : l.signal.refusal? t = none)
    (hGoesOn : l.signal ≠ .halt) :
    l.Leads t.size (l.signal.destination l.counter) := by
  unfold Leads
  cases hSignal : l.signal with
  | advance length => rfl
  | jump address =>
      rw [hSignal, Signal.refusal?] at hAccepted
      have hInside : t.Contains address := by
        by_contra hOutside
        simp [hOutside] at hAccepted
      exact (if_pos hInside).symm
  | halt => exact hGoesOn hSignal
  | suspend => rfl
  | unknown => rfl

theorem leads_of_refused
    {e : Failure}
    (hRefused : l.signal.refusal? t = some e) :
    l.Leads t.size l.counter := by
  unfold Leads
  cases hSignal : l.signal with
  | jump address =>
      rw [hSignal, Signal.refusal?] at hRefused
      have hOutside : ¬ t.Contains address := by
        intro hInside
        simp [hInside] at hRefused
      exact (if_neg hOutside).symm
  | unknown => rfl
  | advance length =>
      rw [hSignal, Signal.refusal?_advance] at hRefused
      cases hRefused
  | halt => simp [hSignal, Signal.refusal?] at hRefused
  | suspend => simp [hSignal, Signal.refusal?] at hRefused

end Trace.Line

------------------------------------------------------------
-- Lines Of Instructions
------------------------------------------------------------

namespace Rig

variable {r r' r₁ : Rig} {l : Trace.Line} {e : Failure}

/-
  The line of the next instruction. It has none if fetching
  it, reading its parameters or its operation fails.
-/
def line? (r : Rig) : Option Trace.Line :=
  match r.machine.fetch with
  | .error _ => none
  | .ok (o, i) =>
      match r.machine.operands i with
      | .error _ => none
      | .ok ps =>
          match (o.execute ⟨i, ps⟩ r.bench).1 with
          | .error _ => none
          | .ok s => some ⟨r.machine.pointer, o.name, ps, s⟩

/- An instruction has a line if its attempt gives a signal. -/
theorem line?_eq_some_iff :
    r.line? = some l ↔
      ∃ x r₁, r.attempt = (.ok x, r₁) ∧ r.line x = l := by
  unfold line? attempt
  rcases r.machine.fetch with e | ⟨o, i⟩
  · simp
  · dsimp only
    rcases r.machine.operands i with e | ps
    · simp
    · dsimp only [bench]
      rcases o.execute ⟨i, ps⟩ ⟨r.machine.tape, r.host⟩ with
        ⟨e | s, b⟩
      · simp
      · simp [line]

theorem line?_eq_none_iff :
    r.line? = none ↔ ∃ e r₁, r.attempt = (.error e, r₁) := by
  rw [Option.eq_none_iff_forall_ne_some]
  simp only [ne_eq, line?_eq_some_iff]
  rcases r.attempt with ⟨e | x, r₁⟩
  · simp
  · simp

/- An instruction without a line leaves no mark but its work. -/
theorem dispatch_of_no_line
    (hLine : r.line? = none) :
    ∃ t : Tape,
      r.dispatch.2.machine = { r.machine with tape := t } := by
  rcases line?_eq_none_iff.mp hLine with ⟨e, r₁, hAttempt⟩
  have hMachine := r.attempt_machine
  rw [dispatch_eq_attempt, hAttempt]
  rwa [hAttempt] at hMachine

/- What a traced machine is once its line is noted. -/
theorem traced_of_attempt
    {x : Answered}
    (hTracing : r.machine.tracing = true)
    (hAttempt : r.attempt = (.ok x, r₁))
    (hWritable : (r.line x).Writable) :
    ∃ r₂,
      r₁.counted.traced (r.line x) = (.ok (), r₂) ∧
        r₂.machine =
          { r.machine with
            tape := r₁.machine.tape
            steps := r.machine.steps + 1
            trace := r.machine.trace ++ [r.line x] } := by
  have hMachine := r.attempt_machine
  rw [hAttempt] at hMachine
  rcases hMachine with ⟨t, hMachine⟩
  dsimp only at hMachine
  have hCounted :
      r₁.counted.machine =
        { r.machine with
          tape := r₁.machine.tape
          steps := r.machine.steps + 1 } := by
    rw [counted, hMachine]
  have hOn : r₁.counted.machine.tracing = true := by
    rw [hCounted]
    exact hTracing
  rcases r₁.counted.traced_cases (r.line x) with
    hUnwritable | ⟨h, hNoted⟩
  · simp [traced, hOn, hWritable] at hUnwritable
  · rw [Machine.noted, if_pos hOn, hCounted] at hNoted
    exact ⟨_, hNoted, rfl⟩

/-
  A traced instruction with a line is counted, the line is
  added to the trace, and it leads to where the counter is
  then, unless the machine has halted.
-/
theorem dispatch_of_line
    (hTracing : r.machine.tracing = true)
    (hLine : r.line? = some l)
    (hWritable : l.Writable) :
    r.dispatch.2.machine.trace = r.machine.trace ++ [l] ∧
      r.dispatch.2.machine.steps = r.machine.steps + 1 ∧
      (r.dispatch.2.machine.state ≠ .halted →
        l.Leads r.machine.tape.size
          r.dispatch.2.machine.pointer) := by
  rcases line?_eq_some_iff.mp hLine with
    ⟨x, r₁, hAttempt, rfl⟩
  rcases traced_of_attempt hTracing hAttempt hWritable with
    ⟨r₂, hTraced, hMachine⟩
  have hSize : r₂.machine.tape.size = r.machine.tape.size := by
    have hSame := r.attempt_leaves.size_eq
    rw [hAttempt] at hSame
    rw [hMachine]
    exact hSame
  have hCounter :
      r₂.machine.pointer = (r.line x).counter := by
    rw [hMachine]
    rfl
  rw [dispatch_of_attempt hAttempt, hTraced, ← hSize]
  dsimp only
  rcases hApply : r₂.apply x.signal with ⟨e | u, r₃⟩
  · rcases apply_error hApply with ⟨rfl, hRefused⟩
    simp only [settle, hApply]
    refine ⟨by rw [hMachine], by rw [hMachine], fun _ => ?_⟩
    rw [hCounter]
    exact Trace.Line.leads_of_refused hRefused
  · rcases apply_ok_effect hApply with
      ⟨hAccepted, hMoved⟩
    simp only [settle, hApply, hMoved]
    refine
      ⟨by rw [hMachine], by rw [hMachine],
        fun hGoesOn => ?_⟩
    rw [hCounter]
    refine Trace.Line.leads_of_accepted hAccepted fun hHalt => ?_
    exact
      hGoesOn (by rw [show x.signal = .halt from hHalt]; rfl)

------------------------------------------------------------
-- Visited Rigs
------------------------------------------------------------

/- The rigs at which a loop executes an instruction. -/
def loopVisits : Nat → Rig → List Rig
| 0, _ => []
| budget + 1, r =>
    r ::
      match r.dispatch with
      | (.error _, _) => []
      | (.ok _, r') =>
          if r'.machine.state.isStopped then []
          else loopVisits budget r'

/- The rigs at which a call executes an instruction. -/
def callVisits
    (budget : Nat) :
    Call → Rig → List Rig
| .run, r =>
    if r.machine.state = .halted then []
    else loopVisits budget r.entered
| .step, r =>
    if r.machine.state = .halted then []
    else [r.enter .running]
| .decode, _ => []

/- The rigs at which the call executed an instruction. -/
def Occasion.visits (o : Occasion) : List Rig :=
  callVisits o.budget o.call o.before

/-
  A rig becomes another by executing the instructions at the
  listed rigs. In between, a machine that has not halted may
  enter the running state, and the host may change.
-/
inductive Route : List Rig → Rig → Rig → Prop where
| here (r : Rig) : Route [] r r
| waits
    {rs : List Rig}
    {r r₁ r' : Rig}
    (hMachine :
      r₁.machine = r.machine ∨
        r.machine.state ≠ .halted ∧
          r₁.machine =
            { r.machine with state := .running })
    (hRest : Route rs r₁ r') :
    Route rs r r'
| visits
    {rs : List Rig}
    {r r' : Rig}
    (hState : r.machine.state = .running)
    (hRest : Route rs r.dispatch.2 r') :
    Route (r :: rs) r r'

theorem Route.append
    {rs rs' : List Rig}
    (hFirst : Route rs r r₁)
    (hSecond : Route rs' r₁ r') :
    Route (rs ++ rs') r r' := by
  induction hFirst with
  | here r => exact hSecond
  | waits hMachine _ ih => exact .waits hMachine (ih hSecond)
  | visits hState _ ih => exact .visits hState (ih hSecond)

theorem loop_route
    {budget : Nat}
    {x : Except Failure Unit}
    (hState : r.machine.state = .running)
    (hLoop : loop budget r = some (x, r')) :
    Route (loopVisits budget r) r r' := by
  induction budget generalizing r with
  | zero => simp [loop] at hLoop
  | succ budget ih =>
      rw [loop] at hLoop
      rw [loopVisits]
      refine .visits hState ?_
      rcases hDispatch : r.dispatch with ⟨e | s, r₁⟩
      · simp only [hDispatch, Option.some.injEq,
          Prod.mk.injEq] at hLoop
        rw [← hLoop.2]
        exact .here r₁
      · simp only [hDispatch] at hLoop
        cases hStopped : r₁.machine.state.isStopped with
        | true =>
            rw [if_pos hStopped, Option.some.injEq,
              Prod.mk.injEq] at hLoop
            rw [← hLoop.2]
            dsimp only
            rw [if_pos hStopped]
            exact .here r₁
        | false =>
            have hOne := Reaches.next hDispatch hStopped (.here _)
            rw [hStopped, if_neg Bool.false_ne_true] at hLoop
            dsimp only
            rw [hStopped, if_neg Bool.false_ne_true]
            exact ih (hOne.state.trans hState) hLoop

theorem call_route
    {budget : Nat}
    {c : Call}
    {x : Except Failure Answer}
    (hCall : r.call budget c = some (x, r')) :
    Route (callVisits budget c r) r r' := by
  rcases call_leaves hCall with
    ⟨rfl, o, hRun⟩ | ⟨rfl, rfl⟩ | ⟨rfl, rfl⟩
  · by_cases hState : r.machine.state = .halted
    · rw [run, if_pos hState, Option.some.injEq,
        Prod.mk.injEq] at hRun
      rw [callVisits, if_pos hState, ← hRun.2]
      refine .waits ?_ (.here _)
      exact Or.inl rfl
    · rw [run, if_neg hState] at hRun
      rw [callVisits, if_neg hState]
      refine
        .waits (Or.inr ⟨hState, r.entered_machine⟩)
          (loop_route ?_ hRun)
      rw [entered_machine]
  · by_cases hState : r.machine.state = .halted
    · rw [callVisits, if_pos hState, step, if_pos hState]
      exact .here r
    · rw [callVisits, if_neg hState, step_eq_dispatch hState]
      exact
        .waits (Or.inr ⟨hState, rfl⟩)
          (.visits rfl (.here _))
  · exact .here r'

/- Sessions go the way of the instructions they execute. -/
theorem session_route
    {log : List Occasion}
    (hSession : Session log r r') :
    Route (log.flatMap Occasion.visits) r r' := by
  induction hSession with
  | rest r => exact .here r
  | @host _ r _ h _ ih =>
      have hSame :
          (Rig.mk r.machine h).machine = r.machine :=
        rfl
      exact .waits (Or.inl hSame) ih
  | call hCall _ ih => exact (call_route hCall).append ih

------------------------------------------------------------
-- Traces Of Routes
------------------------------------------------------------

/-
  The machine keeps a trace, which has these lines, one for
  each counted instruction. Each line leads to the next, and
  the last one to the counter.
-/
structure Follows
    (size : Nat)
    (ls : List Trace.Line)
    (r : Rig) : Prop where
  tape : r.machine.tape.size = size
  tracing : r.machine.tracing = true
  trace : r.machine.trace = ls
  steps : r.machine.steps = ls.length
  chain : ls.IsChain (Trace.Line.Precedes size)
  last :
    r.machine.state ≠ .halted →
      ∀ l ∈ ls.getLast?, l.Leads size r.machine.pointer

variable {size : Nat} {ls : List Trace.Line}

/- A machine is traced from its start. -/
theorem follows_loaded
    (tape : Tape)
    (table : Table)
    (h : Host) :
    Follows tape.size [] (loaded tape table true h) where
  tape := rfl
  tracing := rfl
  trace := rfl
  steps := rfl
  chain := .nil
  last _ := by simp

theorem Follows.waits
    (hFollows : Follows size ls r)
    (hMachine :
      r₁.machine = r.machine ∨
        r.machine.state ≠ .halted ∧
          r₁.machine =
            { r.machine with state := .running }) :
    Follows size ls r₁ := by
  rcases hFollows with
    ⟨hTape, hTracing, hTrace, hSteps, hChain, hLast⟩
  rcases hMachine with hSame | ⟨hState, hSame⟩
  · rw [← hSame] at hTape hTracing hTrace hSteps hLast
    exact ⟨hTape, hTracing, hTrace, hSteps, hChain, hLast⟩
  · refine ⟨?_, ?_, ?_, ?_, hChain, fun _ => ?_⟩
    · rw [hSame]
      exact hTape
    · rw [hSame]
      exact hTracing
    · rw [hSame]
      exact hTrace
    · rw [hSame]
      exact hSteps
    · rw [hSame]
      exact hLast hState

/- An instruction adds its line to the trace, if it has one. -/
theorem Follows.dispatch
    (hFollows : Follows size ls r)
    (hState : r.machine.state = .running)
    (hLegible : ∀ l ∈ r.line?, l.Writable) :
    Follows size (ls ++ r.line?.toList) r.dispatch.2 := by
  have hNotHalted : r.machine.state ≠ .halted := by
    rw [hState]
    exact RunState.noConfusion
  have hKept := dispatch_keeps (r := r) rfl
  have hSize := dispatch_size (r := r) rfl
  cases hLine : r.line? with
  | none =>
      rcases dispatch_of_no_line hLine with ⟨t, hMachine⟩
      rw [Option.toList_none, List.append_nil]
      refine
        ⟨hSize.trans hFollows.tape,
          hKept.2.trans hFollows.tracing, ?_, ?_,
          hFollows.chain, fun _ => ?_⟩
      · rw [hMachine]
        exact hFollows.trace
      · rw [hMachine]
        exact hFollows.steps
      · rw [hMachine]
        exact hFollows.last hNotHalted
  | some l =>
      have hCounter : l.counter = r.machine.pointer := by
        rcases line?_eq_some_iff.mp hLine with
          ⟨x, r₁, -, rfl⟩
        rfl
      rcases dispatch_of_line hFollows.tracing hLine
          (hLegible l hLine) with
        ⟨hTrace, hSteps, hLeads⟩
      rw [hFollows.tape] at hLeads
      rw [Option.toList_some]
      refine
        ⟨hSize.trans hFollows.tape,
          hKept.2.trans hFollows.tracing, ?_, ?_, ?_, ?_⟩
      · rw [hTrace, hFollows.trace]
      · rw [hSteps, hFollows.steps, List.length_append]
        rfl
      · refine hFollows.chain.append (.singleton l) ?_
        intro before hBefore l' hFirst
        rw [List.head?_cons, Option.mem_some_iff] at hFirst
        subst hFirst
        rw [Trace.Line.Precedes, hCounter]
        exact hFollows.last hNotHalted before hBefore
      · intro hGoesOn l' hLast
        rw [List.getLast?_concat, Option.mem_some_iff] at hLast
        subst hLast
        exact hLeads hGoesOn

/- So does each instruction of a route, one after another. -/
theorem Route.follows
    {rs : List Rig}
    (hRoute : Route rs r r')
    (hFollows : Follows size ls r)
    (hLegible : ∀ l ∈ rs.filterMap line?, l.Writable) :
    Follows size (ls ++ rs.filterMap line?) r' := by
  induction hRoute generalizing ls with
  | here r =>
      rw [List.filterMap_nil, List.append_nil]
      exact hFollows
  | waits hMachine _ ih =>
      exact ih (hFollows.waits hMachine) hLegible
  | @visits rs r r' hState _ ih =>
      have hLines :
          (r :: rs).filterMap line? =
            r.line?.toList ++ rs.filterMap line? := by
        rw [List.filterMap_cons]
        cases r.line? <;> rfl
      rw [hLines] at hLegible ⊢
      rw [← List.append_assoc]
      refine ih (hFollows.dispatch hState ?_) ?_
      · intro l hLine
        exact
          hLegible l
            (List.mem_append_left _ (Option.mem_toList.mpr hLine))
      · exact fun l hMember =>
          hLegible l (List.mem_append_right _ hMember)

------------------------------------------------------------
-- Traces Of Sessions
------------------------------------------------------------

/- Of the instructions that fail, those refused have a line. -/
theorem FailsIn.line?_isSome_iff
    {stage : Stage}
    {b : Action.Bench}
    (hFails : r.FailsIn stage e b) :
    r.line?.isSome ↔ stage = .signal := by
  unfold line?
  cases hFails with
  | decoding hFetch => simp [hFetch]
  | parameters hFetch hOperands => simp [hFetch, hOperands]
  | execution hFetch hOperands hExecute =>
      simp [hFetch, hOperands, hExecute]
  | signal hFetch hOperands hExecute hRefusal =>
      simp [hFetch, hOperands, hExecute]

/-
  After any session of a machine that is traced from its
  start, there is one line for each counted instruction. It
  is the line of the instruction at the visited rig: the
  counter, the operation, the parameters read before it, and
  the signal. All this can be read back from its text, and
  from the text of the trace if no name breaks a line. Each
  line leads to the next, and none follows a halt. An
  instruction that fails has a line exactly if it is its
  signal that is refused.
-/
theorem calls_trace
    {tape : Tape}
    {table : Table}
    {h : Host}
    {log : List Occasion}
    (hSession : Session log (loaded tape table true h) r)
    (hLegible :
      ∀ l ∈ (log.flatMap Occasion.visits).filterMap line?,
        l.Writable) :
    r.machine.trace =
        (log.flatMap Occasion.visits).filterMap line? ∧
      (∀ l ∈ r.machine.trace,
        Trace.Line.read l.parameters.length l.render.toList =
          some l.sight) ∧
      (r.machine.trace ≠ [] →
        (∀ l ∈ r.machine.trace, '\n' ∉ l.name.toList) →
        List.Forall₂
          (fun l text =>
            Trace.Line.read l.parameters.length text =
              some l.sight)
          r.machine.trace
          (Text.pieces '\n' r.machine.traceText.toList)) ∧
      r.machine.trace.length = r.machine.steps ∧
      r.machine.trace.IsChain
        (Trace.Line.Precedes tape.size) ∧
      (∀ (k : Nat) l,
        r.machine.trace[k]? = some l →
        l.signal = .halt →
          k + 1 = r.machine.trace.length) ∧
      ∀ r₀ ∈ log.flatMap Occasion.visits,
        ∀ stage e b,
          r₀.FailsIn stage e b →
            (r₀.line?.isSome ↔ stage = .signal) := by
  have hFollows :=
    (session_route hSession).follows
      (follows_loaded tape table h) hLegible
  rw [List.nil_append] at hFollows
  have hChain := hFollows.chain
  rw [← hFollows.trace] at hChain hLegible
  have hRead :
      ∀ l ∈ r.machine.trace,
        Trace.Line.read l.parameters.length l.render.toList =
          some l.sight :=
    fun l hMember => Trace.Line.read_render (hLegible l hMember)
  refine
    ⟨hFollows.trace, hRead, ?_, ?_, hChain, ?_,
      fun r₀ _ stage e b hFails => hFails.line?_isSome_iff⟩
  · intro hLines hNames
    rw [Machine.traceText, Trace.pieces_render hLines hNames,
      List.forall₂_map_right_iff, List.forall₂_same]
    exact hRead
  · rw [hFollows.trace, hFollows.steps]
  · intro k l hLine hHalt
    rcases List.getElem?_eq_some_iff.mp hLine with
      ⟨hIndex, rfl⟩
    by_contra hNotLast
    have hNext : k + 1 < r.machine.trace.length := by omega
    have hLeads := List.isChain_iff_getElem.mp hChain k hNext
    rw [Trace.Line.Precedes, Trace.Line.Leads, hHalt] at hLeads
    exact hLeads

/- An input that waits and goes on, and a jump tried twice. -/
def waitAndJump : List Trace.Line :=
  [⟨0, "IN", [⟨4, 0, .position⟩], .suspend⟩,
    ⟨0, "IN", [⟨4, 0, .position⟩], .advance 2⟩,
    ⟨2, "JNZ", [⟨1, 0, .immediate⟩, ⟨77, 1, .immediate⟩],
      .jump 77⟩,
    ⟨2, "JNZ", [⟨1, 0, .immediate⟩, ⟨77, 1, .immediate⟩],
      .jump 77⟩]

/-
  An input is traced when it waits, and when its queue has
  been fed. A jump off the tape is traced each time it is
  tried.
-/
theorem refused_jump_trace :
    ∃ log r,
      Session log
        (loaded ⟨[3, 4, 1105, 1, 99]⟩ .probing true
          ((Host.fresh []).addQueue []).2) r ∧
      log.map Occasion.call = [.run, .run, .run] ∧
      r.machine.trace = waitAndJump ∧
      r.machine.trace.length = r.machine.steps ∧
      r.machine.trace.IsChain (Trace.Line.Precedes 5) ∧
      List.Forall₂
        (fun l text =>
          Trace.Line.read l.parameters.length text =
            some l.sight)
        r.machine.trace
        (Text.pieces '\n' r.machine.traceText.toList) := by
  have hCalls :
      (call 1 .run
          (loaded ⟨[3, 4, 1105, 1, 99]⟩ .probing true
            ((Host.fresh []).addQueue []).2)).any
        (fun y =>
          (call 2 .run
            ⟨y.2.machine, y.2.host.append 0 [77]⟩).any
          (fun z =>
            (call 1 .run z.2).any fun _ =>
              (callVisits 1 .run
                  (loaded ⟨[3, 4, 1105, 1, 99]⟩ .probing true
                    ((Host.fresh []).addQueue []).2) ++
                (callVisits 2 .run
                    ⟨y.2.machine, y.2.host.append 0 [77]⟩ ++
                  (callVisits 1 .run z.2 ++ []))).filterMap
                line? = waitAndJump)) = true := by
    decide +kernel
  rcases (Option.any_eq_true _ _).mp hCalls with
    ⟨⟨x₁, r₁⟩, hFirst, hCalls⟩
  rcases (Option.any_eq_true _ _).mp hCalls with
    ⟨⟨x₂, r₂⟩, hSecond, hCalls⟩
  rcases (Option.any_eq_true _ _).mp hCalls with
    ⟨⟨x₃, r⟩, hThird, hLines⟩
  have hLines := of_decide_eq_true hLines
  have hSession :=
    Session.call hFirst
      (.host _ (.call hSecond (.call hThird (.rest r))))
  have hLegible : ∀ l ∈ waitAndJump, l.Writable := by
    intro l hMember
    refine Numeral.allWritable_of_lt ?_
    revert l
    decide
  have hTrace := calls_trace hSession (hLines.symm ▸ hLegible)
  rcases hTrace with
    ⟨hSame, -, hText, hLength, hChain, -, -⟩
  have hSame := hSame.trans hLines
  refine
    ⟨_, r, hSession, rfl, hSame, hLength, hChain, hText ?_ ?_⟩
  · rw [hSame]
    exact List.cons_ne_nil _ _
  · rw [hSame]
    decide

end Rig

end IntcodeMachine
