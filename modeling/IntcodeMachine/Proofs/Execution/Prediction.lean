import IntcodeMachine.Proofs.Execution.Bounds
import IntcodeMachine.Proofs.Execution.States
import IntcodeMachine.Proofs.Failure.Origin
import IntcodeMachine.Proofs.Instruction.Digits

/-
  This file proves that decoding tells what the next step
  executes.

  A step whose instruction cannot be decoded, or runs off
  the tape, fails without executing an operation. Any other
  step executes the operation of its opcode, once, on the
  words behind the opcode, each with its place and the mode
  of its digit. There are always as many of them as the
  operation has parameters, so that its own check of their
  number never fails.

  Main declarations:
    * `Machine.Binds`
    * `Machine.Fetched.exists_operands`
    * `Rig.conclude`
    * `Rig.stepWith`
    * `Rig.InvokesOnce`
    * `Rig.invokesOnce_of_operands`
    * `Rig.step_predicted`
-/

------------------------------------------------------------
-- Parameters Of Instructions That Lie On The Tape
------------------------------------------------------------

namespace IntcodeMachine

/- Each parameter is a word with the mode of its place. -/
theorem Instruction.getElem?_bindFrom
    (position : Nat)
    {raws : List Int}
    {modes : List Mode}
    {k : Nat}
    {raw : Int}
    {mode : Mode}
    (hRaw : raws[k]? = some raw)
    (hMode : modes[k]? = some mode) :
    (bindFrom position raws modes)[k]? =
      some ⟨raw, position + k, mode⟩ := by
  induction k generalizing position raws modes with
  | zero =>
      cases raws with
      | nil => simp at hRaw
      | cons n raws =>
          cases modes with
          | nil => simp at hMode
          | cons m modes => simp_all [bindFrom]
  | succ k ih =>
      cases raws with
      | nil => simp at hRaw
      | cons n raws =>
          cases modes with
          | nil => simp at hMode
          | cons m modes =>
              rw [bindFrom, List.getElem?_cons_succ,
                ih (position + 1) (by simpa using hRaw)
                  (by simpa using hMode),
                Nat.add_right_comm, Nat.add_assoc]

namespace Machine

variable {m : Machine} {o : Operation} {i : Instruction}

/-
  The parameter of a place is the word that lies there
  behind the opcode, with the mode of its digit.
-/
structure Binds
    (m : Machine)
    (i : Instruction)
    (k : Nat)
    (p : Parameter) : Prop where
  position : p.position = k
  raw : m.tape.read (m.pointer + 1 + k) = .ok p.raw
  mode : p.mode.digit = decimalDigit i.word (k + 2)

namespace Fetched

variable (hFetched : m.Fetched o i)
include hFetched

/- The modes of an instruction are the digits of its word. -/
theorem digit_mode
    {k : Nat}
    {mode : Mode}
    (hMode : i.modes[k]? = some mode) :
    mode.digit = decimalDigit i.word (k + 2) := by
  have hLength := length_modesFrom hFetched.modes
  have hBound := (List.getElem?_eq_some_iff.mp hMode).1
  have hDigit :
      (i.modes.map Mode.digit)[k]? = some mode.digit := by
    rw [List.getElem?_map, hMode]
    rfl
  rw [digits_of_modesFrom hFetched.modes, List.getElem?_map,
    List.getElem?_range' (by omega), Nat.zero_add,
    Nat.one_mul] at hDigit
  exact (Option.some.inj hDigit).symm

/- The parameters of an instruction that lies on the tape. -/
theorem exists_operands
    (hFits : m.pointer + i.arity < m.tape.size) :
    ∃ ps,
      m.operands i = .ok ps ∧ ps.length = i.arity ∧
        ∀ k < i.arity,
          ∃ p, ps[k]? = some p ∧ m.Binds i k p := by
  have hCounter := hFetched.contains.1
  have hContains (k : Nat) (hk : k < i.arity) :
      m.tape.Contains (m.pointer + 1 + k) :=
    ⟨by omega, by omega⟩
  have hInside :
      ∀ a ∈ i.operandAddresses, m.tape.Contains a := by
    rw [hFetched.operandAddresses]
    intro a hMember
    rcases List.mem_map.mp hMember with ⟨k, hRange, rfl⟩
    exact hContains k (List.mem_range.mp hRange)
  have hOperands :
      m.operands i =
        .ok
          (i.bind
            (i.operandAddresses.map fun a =>
              m.tape.cells.getD a.toNat 0)) := by
    rw [operands, Tape.readAll_of_contains hInside]
  refine ⟨_, hOperands, ?_, ?_⟩
  · rw [(hFetched.operands_ok hOperands).1, hFetched.arity]
  · intro k hk
    have hMode : i.modes[k]? = some i.modes[k] :=
      List.getElem?_eq_getElem hk
    have hRaw :
        (i.operandAddresses.map fun a =>
            m.tape.cells.getD a.toNat 0)[k]? =
          some
            (m.tape.cells.getD (m.pointer + 1 + k).toNat
              0) := by
      rw [hFetched.operandAddresses, List.getElem?_map,
        List.getElem?_map, List.getElem?_range hk]
      rfl
    refine
      ⟨_, Instruction.getElem?_bindFrom 0 hRaw hMode,
        Nat.zero_add k, ?_, hFetched.digit_mode hMode⟩
    exact Tape.read_eq_ok_iff.mpr ⟨hContains k hk, rfl⟩

end Fetched

end Machine

------------------------------------------------------------
-- What An Instruction Makes Of A Reply
------------------------------------------------------------

namespace Rig

variable {r r' : Rig} {o : Operation} {i : Instruction}
variable {ps : List Parameter}

/-
  What an instruction makes of what its action gives. This
  executes no action.
-/
def conclude
    (r : Rig)
    (o : Operation)
    (site : Action.Site) :
    Except Failure Reply × Action.Bench →
      Except Failure Signal × Rig
| (.error e, b) => (.error e, r.afterAction b)
| (.ok reply, b) =>
    match Operation.signalOf o.name site.instruction reply with
    | .error e => (.error e, r.afterAction b)
    | .ok s => (r.afterAction b).complete o site.parameters s

/- An instruction that can be read executes one action. -/
theorem dispatch_eq_conclude
    (hFetch : r.machine.fetch = .ok (o, i))
    (hOperands : r.machine.operands i = .ok ps) :
    r.dispatch =
      r.conclude o ⟨i, ps⟩ (o.action.run ⟨i, ps⟩ r.bench) := by
  have hFetched := Machine.fetch_eq_ok_iff.mp hFetch
  have hArity := (hFetched.operands_ok hOperands).1
  simp only [dispatch, hFetch, hOperands, Operation.execute,
    if_pos hArity]
  rw [show Action.Bench.mk r.machine.tape r.host = r.bench
    from rfl]
  rcases o.action.run ⟨i, ps⟩ r.bench with ⟨e | reply, b⟩
  · rfl
  · rw [conclude]
    dsimp only
    rcases Operation.signalOf o.name i reply with e | s
    · rfl
    · rfl

theorem traced_withActions
    (r : Rig)
    (f : Opcode → Action)
    (l : Trace.Line) :
    (r.withActions f).traced l =
      ((r.traced l).1, (r.traced l).2.withActions f) := by
  unfold traced
  rw [show (r.withActions f).machine.tracing =
    r.machine.tracing from rfl]
  split
  · split
    · rfl
    · rfl
  · rfl

theorem apply_withActions
    (r : Rig)
    (f : Opcode → Action)
    (s : Signal) :
    (r.withActions f).apply s =
      ((r.apply s).1, (r.apply s).2.withActions f) := by
  cases s with
  | advance length => rfl
  | jump address =>
      simp only [apply]
      rw [show (r.withActions f).machine.tape =
        r.machine.tape from rfl]
      split
      · rfl
      · rfl
  | halt => rfl
  | suspend => rfl
  | unknown => rfl

/- What is made of a reply does not depend on the actions. -/
theorem conclude_withActions
    (r : Rig)
    (f : Opcode → Action)
    (o : Operation)
    (a : Action)
    (site : Action.Site)
    (x : Except Failure Reply × Action.Bench) :
    (r.withActions f).conclude (o.withAction a) site x =
      ((r.conclude o site x).1,
        (r.conclude o site x).2.withActions f) := by
  rcases x with ⟨e | reply, b⟩
  · rfl
  · simp only [conclude, Operation.withAction]
    rcases Operation.signalOf o.name site.instruction reply
      with e | s
    · rfl
    · dsimp only
      unfold complete
      rw [show ((r.withActions f).afterAction b).counted =
        (r.afterAction b).counted.withActions f from rfl,
        show
          ((r.withActions f).afterAction b).machine.pointer =
            (r.afterAction b).machine.pointer from rfl,
        traced_withActions]
      dsimp only
      rcases (r.afterAction b).counted.traced
          ⟨(r.afterAction b).machine.pointer, o.name,
            site.parameters, s⟩ with
        ⟨e | u, r₁⟩
      · rfl
      · dsimp only
        rw [apply_withActions]
        rcases r₁.apply s with ⟨e | u, r₂⟩
        · rfl
        · rfl

/- What a step makes of what the action gives. -/
def stepWith
    (r : Rig)
    (o : Operation)
    (site : Action.Site)
    (x : Except Failure Reply × Action.Bench) :
    Except Failure (Option Signal) × Rig :=
  let y := (r.enter .running).conclude o site x
  (y.1.map some, y.2)

/-
  The step executes the operation of the opcode once, for
  these parameters: it is what is made of one execution of
  its action. If the operations of the table do something
  else, it is what is made of one execution of that.
-/
structure InvokesOnce
    (r : Rig)
    (o : Operation)
    (site : Action.Site) : Prop where
  entry :
    r.machine.table.entry site.instruction.opcode = some o
  own :
    r.step = r.stepWith o site (o.action.run site r.bench)
  once :
    ∀ f : Opcode → Action,
      let x :=
        r.stepWith o site
          ((f site.instruction.opcode).run site r.bench)
      (r.withActions f).step = (x.1, x.2.withActions f)

/- An instruction that lies on the tape calls its operation. -/
theorem invokesOnce_of_operands
    (hState : r.machine.state ≠ .halted)
    (hFetched : r.machine.Fetched o i)
    (hOperands : r.machine.operands i = .ok ps) :
    r.InvokesOnce o ⟨i, ps⟩ := by
  have hFetch : (r.enter .running).machine.fetch = .ok (o, i) :=
    (Machine.fetch_eq_ok_iff.mpr hFetched :
      r.machine.fetch = .ok (o, i))
  have hRead : (r.enter .running).machine.operands i = .ok ps :=
    hOperands
  refine ⟨hFetched.entry, ?_, fun f => ?_⟩
  · rw [step_eq_dispatch hState,
      dispatch_eq_conclude hFetch hRead]
    rfl
  · have hOther : (r.withActions f).machine.state ≠ .halted :=
      hState
    -- The same instruction is fetched, with the action of f.
    have hReplaced :
        ((r.enter .running).withActions f).machine.fetch =
          .ok (o.withAction (f i.opcode), i) := by
      rw [show ((r.enter .running).withActions f).machine =
        (r.enter .running).machine.withActions f from rfl,
        Machine.fetch_withActions, hFetch]
      rfl
    have hSame :
        ((r.enter .running).withActions f).machine.operands i =
          .ok ps :=
      hOperands
    rw [step_eq_dispatch hOther, enter_withActions,
      dispatch_eq_conclude hReplaced hSame,
      conclude_withActions]
    rfl

/- An action that answers nothing moves past the instruction. -/
theorem InvokesOnce.step_of_nothing
    {b : Action.Bench}
    {site : Action.Site}
    (hInvokes : r.InvokesOnce o site)
    (hTracing : r.machine.tracing = false)
    (hNothing :
      o.action.run site r.bench = (.ok .nothing, b)) :
    ∃ r',
      r.step =
          (.ok (some (.advance site.instruction.length)),
            r') ∧
        r'.machine.pointer =
          r.machine.pointer + site.instruction.length := by
  have hOff :
      ((r.enter .running).afterAction b).machine.tracing =
        false :=
    hTracing
  rw [hInvokes.own, hNothing]
  simp only [stepWith, conclude, Operation.signalOf,
    complete_of_not_tracing hOff]
  exact ⟨_, rfl, rfl⟩

------------------------------------------------------------
-- Instructions That Cannot Be Decoded
------------------------------------------------------------

/- What decoding raises is raised, and nothing is executed. -/
theorem step_of_decode_error
    {e : Failure}
    (hState : r.machine.state ≠ .halted)
    (hDecode : r.machine.decode = .error e) :
    r.step = (.error e, r.enter .running) ∧
      r.Idle .step := by
  have hFetch : r.machine.fetch = .error e := by
    unfold Machine.decode at hDecode
    rcases hFetch : r.machine.fetch with e₁ | ⟨o, i⟩
    · simpa only [hFetch, Except.error.injEq] using hDecode
    · simp [hFetch] at hDecode
  have hEntered : (r.enter .running).machine.fetch = .error e :=
    hFetch
  constructor
  · rw [step_eq_dispatch hState, dispatch, hEntered]
    rfl
  · refine (step_idle_iff r).mpr (Or.inr ?_)
    rintro ⟨o, i, ps, hOther, -⟩
    simp [hFetch] at hOther

------------------------------------------------------------
-- What Decoding Tells
------------------------------------------------------------

/- A step that counts parameters wrongly does so by its action. -/
theorem refuses_of_parameterCount
    {name : String}
    {arity given : Nat}
    (hDispatch :
      r.dispatch =
        (.error (.parameterCount name arity given), r')) :
    r.Refuses (.parameterCount name arity given) := by
  rcases dispatch_error_origin hDispatch with
    hMachine | hRefuses
  · exact absurd rfl hMachine.not_parameterCount
  · exact hRefuses

/-
  What decoding raises, the next step raises, and executes
  no operation. What is decoded tells the step: if it runs
  off the tape, the step raises the size of the tape and
  executes no operation; if it lies on the tape, the step
  executes the operation of the last two digits once, on as
  many parameters as the operation takes, each the word at
  its place with the mode of its digit. An action that
  answers nothing moves the counter past them. The check of
  the number of parameters never fails; only an action can
  raise that by itself.
-/
theorem step_predicted
    (hState : r.machine.state ≠ .halted) :
    (∀ e,
      r.machine.decode = .error e →
      r.step = (.error e, r.enter .running) ∧
        r.Idle .step) ∧
    (∀ i,
      r.machine.decode = .ok i →
      i.address = r.machine.pointer ∧
      r.machine.tape.read r.machine.pointer = .ok i.word ∧
      i.word % 100 = i.opcode.val ∧
      (r.machine.tape.size ≤ r.machine.pointer + i.arity →
        r.Idle .step ∧
        (Numeral.Writable r.machine.tape.size →
          r.step =
            (.error
              (.fault
                (.outOfBounds r.machine.tape.size
                  r.machine.tape.size)),
              r.enter .running))) ∧
      (r.machine.pointer + i.arity < r.machine.tape.size →
        ∃ o ps,
          r.InvokesOnce o ⟨i, ps⟩ ∧
          o.arity = i.arity ∧
          ps.length = i.arity ∧
          (∀ k < i.arity,
            ∃ p, ps[k]? = some p ∧ r.machine.Binds i k p) ∧
          (r.machine.tracing = false →
            ∀ b,
              o.action.run ⟨i, ps⟩ r.bench =
                (.ok .nothing, b) →
              ∃ r',
                r.step =
                    (.ok (some (.advance i.length)), r') ∧
                  r'.machine.pointer =
                    r.machine.pointer + i.arity + 1))) ∧
    (∀ name arity given r',
      r.step =
        (.error (.parameterCount name arity given), r') →
      (r.enter .running).Refuses
        (.parameterCount name arity given)) ∧
    (∀ name arity given budget r',
      r.run budget =
        some (.error (.parameterCount name arity given), r') →
      ∃ n r₀,
        Reaches n r.entered r₀ ∧
          r₀.Refuses (.parameterCount name arity given)) := by
  refine ⟨fun e => step_of_decode_error hState, ?_, ?_, ?_⟩
  · intro i hDecode
    rcases Machine.decode_eq_ok_iff.mp hDecode with
      ⟨o, hFetched⟩
    refine
      ⟨hFetched.address, hFetched.word,
        (opcodeOf_eq_ok_iff.mp hFetched.opcode).2, ?_, ?_⟩
    · intro hShort
      have hLong :
          r.machine.tape.size <
            r.machine.pointer + i.length := by
        rw [Instruction.length]
        omega
      refine ⟨idle_of_truncated hFetched hLong, ?_⟩
      intro hWritable
      exact
        (step_of_truncated hWritable hState hDecode hLong).1
    · intro hFits
      rcases hFetched.exists_operands hFits with
        ⟨ps, hOperands, hLength, hBinds⟩
      have hInvokes : r.InvokesOnce o ⟨i, ps⟩ :=
        invokesOnce_of_operands hState hFetched hOperands
      refine
        ⟨o, ps, hInvokes, hFetched.arity.symm, hLength,
          hBinds, ?_⟩
      intro hTracing b hNothing
      rcases hInvokes.step_of_nothing hTracing hNothing with
        ⟨r', hStep, hPointer⟩
      refine ⟨r', hStep, ?_⟩
      dsimp only [Instruction.length] at hPointer
      omega
  · intro name arity given r' hStep
    exact refuses_of_parameterCount (step_error hStep)
  · intro name arity given budget r' hRun
    rcases (finishes_iff_reaches hState).mp ⟨budget, hRun⟩
      with ⟨n, r₀, hReaches, hEnds⟩
    exact ⟨n, r₀, hReaches, refuses_of_parameterCount hEnds⟩

/-
  The word of an addition tells that its second parameter is
  immediate. One that runs off the tape is not executed, and
  neither is a word without an operation.
-/
theorem addition_predicted :
    (∃ r o ps p,
      r =
        loaded ⟨[1001, 4, 9, 5, 70, 0]⟩ .onConsole false
          (.fresh []) ∧
      r.machine.decode =
        .ok ⟨0, 1001, 1, [.position, .immediate, .position]⟩ ∧
      r.InvokesOnce o
        ⟨⟨0, 1001, 1, [.position, .immediate, .position]⟩,
          ps⟩ ∧
      o.arity = 3 ∧ ps.length = 3 ∧ ps[1]? = some p ∧
      p.raw = 9 ∧ p.mode = .immediate) ∧
    (∃ r i,
      r =
        loaded ⟨[1001, 4, 9]⟩ .onConsole false (.fresh []) ∧
      r.machine.decode = .ok i ∧
      r.Idle .step ∧
      r.step =
        (.error (.fault (.outOfBounds 3 3)),
          r.enter .running)) ∧
    ∃ r e,
      r = loaded ⟨[50]⟩ .onConsole false (.fresh []) ∧
      r.machine.decode = .error e ∧
      r.step = (.error e, r.enter .running) ∧
      r.Idle .step := by
  have hState
      (cells : List Int) :
      (loaded ⟨cells⟩ .onConsole false
        (.fresh [])).machine.state ≠ .halted :=
    RunState.noConfusion
  refine ⟨?_, ?_, ?_⟩
  · have hDecode :
        (loaded ⟨[1001, 4, 9, 5, 70, 0]⟩ .onConsole false
          (.fresh [])).machine.decode =
          .ok
            ⟨0, 1001, 1,
              [.position, .immediate, .position]⟩ :=
      rfl
    rcases (step_predicted (hState _)).2.1 _ hDecode with
      ⟨-, -, -, -, hFits⟩
    rcases hFits (by decide) with
      ⟨o, ps, hInvokes, hArity, hLength, hBinds, -⟩
    rcases hBinds 1 (by decide) with ⟨p, hSlot, hBound⟩
    refine
      ⟨_, o, ps, p, rfl, hDecode, hInvokes, hArity, hLength,
        hSlot, ?_, ?_⟩
    · exact (Except.ok.inj hBound.raw).symm
    · have hDigit : p.mode.digit = decimalDigit 1001 3 :=
        hBound.mode
      cases hMode : p.mode with
      | position =>
          simp [hMode, Mode.digit, decimalDigit_eq] at hDigit
      | immediate => rfl
  · have hDecode :
        ∃ i,
          (loaded ⟨[1001, 4, 9]⟩ .onConsole false
            (.fresh [])).machine.decode = .ok i ∧
            i.arity = 3 :=
      ⟨_, rfl, rfl⟩
    rcases hDecode with ⟨i, hDecode, hArity⟩
    rcases (step_predicted (hState _)).2.1 _ hDecode with
      ⟨-, -, -, hShort, -⟩
    rcases hShort (by rw [hArity]; decide) with
      ⟨hIdle, hRaises⟩
    exact
      ⟨_, i, rfl, hDecode, hIdle,
        hRaises (Numeral.lt_ceiling_of_lt_ten (by decide))⟩
  · have hDecode :
        ∃ e,
          (loaded ⟨[50]⟩ .onConsole false
            (.fresh [])).machine.decode = .error e :=
      ⟨_, rfl⟩
    rcases hDecode with ⟨e, hDecode⟩
    rcases (step_predicted (hState _)).1 e hDecode with
      ⟨hStep, hIdle⟩
    exact ⟨_, e, rfl, hDecode, hStep, hIdle⟩

end Rig

end IntcodeMachine
