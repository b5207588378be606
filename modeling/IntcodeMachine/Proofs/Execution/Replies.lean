import IntcodeMachine.Proofs.Execution.Requests
import IntcodeMachine.Table

/-
  This file says which replies an action can give, and
  through which parameters it can write.

  Some replies are made by the context of an instruction:
  nothing, to advance past the instruction, to jump, to halt,
  and to suspend. The standard operations answer with nothing
  or a jump, but for one of them, which halts, and write
  through their own parameters alone. An operation that
  catches a failure and halts is made by the context too.

  Main declarations:
    * `Action.Obeys`
    * `Action.Obeys.of_run`
    * `Action.Goes.pointed`
    * `Signal.MadeFor`
    * `Operation.Contextual`
    * `Table.standard_entries`
    * `Table.standard_cases`
    * `Table.contextual_standard`
    * `Table.contextual_probing`
-/

------------------------------------------------------------
-- What Actions May Do
------------------------------------------------------------

namespace IntcodeMachine

namespace Action

/-
  At the site, however its requests are answered, the action
  gives such replies only, and writes through such
  parameters only.
-/
def Obeys
    (site : Site)
    (replies : Reply → Prop)
    (targets : Parameter → Prop) : Action → Prop
| .reply r => replies r
| .refuse _ => True
| .inspect next => (next site).Obeys site replies targets
| .look next => ∀ b, (next b).Obeys site replies targets
| .value _ next => ∀ x, (next x).Obeys site replies targets
| .write p _ next =>
    targets p ∧ ∀ x, (next x).Obeys site replies targets
| .receive _ next => ∀ x, (next x).Obeys site replies targets
| .emit _ _ next => ∀ x, (next x).Obeys site replies targets
| .take _ next => ∀ n, (next n).Obeys site replies targets
| .keep _ _ next => next.Obeys site replies targets
| .note _ next => next.Obeys site replies targets

variable {site : Site} {a a' : Action} {b b' : Bench}
variable {ws : List (Int × Int)}
variable {replies : Reply → Prop}
variable {targets : Parameter → Prop}

/- An action that obeys still does so after a request. -/
theorem Proceeds.obeys
    (hProceeds : Proceeds site a b ws a' b')
    (hObeys : a.Obeys site replies targets) :
    a'.Obeys site replies targets := by
  cases hProceeds with
  | inspect => exact hObeys
  | keep => exact hObeys
  | note => exact hObeys
  | written hStore => exact hObeys.2 _
  | refused hStore => exact hObeys.2 _
  | _ => exact hObeys _

theorem Goes.obeys
    (hGoes : Goes site a b ws a' b')
    (hObeys : a.Obeys site replies targets) :
    a'.Obeys site replies targets := by
  induction hGoes with
  | here a b => exact hObeys
  | next hProceeds hRest ih => exact ih (hProceeds.obeys hObeys)

/- It writes where such parameters point. -/
theorem Proceeds.pointed
    (hProceeds : Proceeds site a b ws a' b')
    (hObeys : a.Obeys site replies targets) :
    ∀ w ∈ ws,
      ∃ p, targets p ∧ p.mode = .position ∧ p.raw = w.1 := by
  cases hProceeds with
  | written hStore =>
      exact
        List.forall_mem_singleton.mpr
          ⟨_, hObeys.1, (store_eq_ok_iff.mp hStore).1, rfl⟩
  | _ => exact List.forall_mem_nil _

theorem Goes.pointed
    (hGoes : Goes site a b ws a' b')
    (hObeys : a.Obeys site replies targets) :
    ∀ w ∈ ws,
      ∃ p, targets p ∧ p.mode = .position ∧ p.raw = w.1 := by
  induction hGoes with
  | here a b => exact List.forall_mem_nil _
  | next hProceeds hRest ih =>
      exact
        List.forall_mem_append.mpr
          ⟨hProceeds.pointed hObeys,
            ih (hProceeds.obeys hObeys)⟩

/- What it replies is one of such replies. -/
theorem Obeys.of_run
    {r : Reply}
    (hObeys : a.Obeys site replies targets)
    (hRun : a.run site b = (.ok r, b')) :
    replies r := by
  rcases a.settles site b with ⟨ws, a₁, b₁, hGoes, hFinal⟩
  have hLast := hGoes.obeys hObeys
  rw [hGoes.run_eq] at hRun
  cases hFinal with
  | reply r₁ =>
      rw [run, Prod.mk.injEq, Except.ok.injEq] at hRun
      rw [← hRun.1]
      exact hLast
  | refuse e => simp [run] at hRun

/- An action may be allowed more replies than it gives. -/
theorem Obeys.mono
    {replies' : Reply → Prop}
    (hObeys : a.Obeys site replies targets)
    (hReplies : ∀ r, replies r → replies' r) :
    a.Obeys site replies' targets := by
  induction a with
  | reply r => exact hReplies r hObeys
  | refuse e => trivial
  | inspect next ih => exact ih site hObeys
  | look next ih => exact fun b => ih b (hObeys b)
  | value p next ih => exact fun x => ih x (hObeys x)
  | write p word next ih =>
      exact ⟨hObeys.1, fun x => ih x (hObeys.2 x)⟩
  | receive source next ih => exact fun x => ih x (hObeys x)
  | emit sink word next ih => exact fun x => ih x (hObeys x)
  | take queue next ih => exact fun n => ih n (hObeys n)
  | keep memory ns next ih => exact ih hObeys
  | note record next ih => exact ih hObeys

------------------------------------------------------------
-- Usual Requests
------------------------------------------------------------

theorem obeys_orFail
    {α : Type}
    {next : α → Action}
    (hNext : ∀ x, (next x).Obeys site replies targets)
    (x : Except Failure α) :
    (orFail next x).Obeys site replies targets := by
  cases x with
  | error e => trivial
  | ok y => exact hNext y

/- The parameter that is asked for is one of the site. -/
theorem obeys_parameter
    {next : Parameter → Action}
    (slot : Nat)
    (hNext :
      ∀ p ∈ site.parameters,
        (next p).Obeys site replies targets) :
    (parameter slot next).Obeys site replies targets := by
  rw [parameter, Obeys]
  split
  · trivial
  · rename_i p hSlot
    exact hNext p (List.mem_of_getElem? hSlot)

theorem obeys_valueOf
    {next : Int → Action}
    (slot : Nat)
    (hNext : ∀ n, (next n).Obeys site replies targets) :
    (valueOf slot next).Obeys site replies targets :=
  obeys_parameter slot fun _ _ => obeys_orFail hNext

theorem obeys_writeTo
    {next : Action}
    (slot : Nat)
    (word : Int)
    (hNext : next.Obeys site replies (· ∈ site.parameters)) :
    (writeTo slot word next).Obeys site replies
      (· ∈ site.parameters) :=
  obeys_parameter slot fun _ hMember =>
    ⟨hMember, obeys_orFail fun _ => hNext⟩

theorem obeys_receiveFrom
    {next : Int → Action}
    (source : Source)
    (hNext : ∀ n, (next n).Obeys site replies targets) :
    (receiveFrom source next).Obeys site replies targets :=
  obeys_orFail hNext

theorem obeys_emitTo
    {next : Action}
    (sink : Sink)
    (word : Int)
    (hNext : next.Obeys site replies targets) :
    (emitTo sink word next).Obeys site replies targets :=
  obeys_orFail fun _ => hNext

end Action

/- The reply behind the signal of an operation. -/
theorem Operation.execute_ok_reply
    {o : Operation}
    {site : Action.Site}
    {b b' : Action.Bench}
    {s : Signal}
    (hExecute : o.execute site b = (.ok s, b')) :
    ∃ r,
      o.action.run site b = (.ok r, b') ∧
        signalOf o.name site.instruction r = .ok s := by
  unfold execute at hExecute
  split at hExecute
  · rcases hRun : o.action.run site b with ⟨e | r, b₁⟩
    · simp [hRun] at hExecute
    · simp only [hRun, Prod.mk.injEq] at hExecute
      rcases hExecute with ⟨hSignal, rfl⟩
      exact ⟨r, rfl, hSignal⟩
  · simp at hExecute

------------------------------------------------------------
-- Signals That The Context Makes
------------------------------------------------------------

/- The context of an instruction can make the signal. -/
inductive Signal.MadeFor
    (i : Instruction) : Signal → Prop where
| advance : MadeFor i (.advance i.length)
| jump (address : Int) : MadeFor i (.jump address)
| halt : MadeFor i .halt
| suspend : MadeFor i .suspend

/- Nothing, or a signal that the context makes. -/
inductive Reply.MadeFor
    (i : Instruction) : Reply → Prop where
| nothing : MadeFor i .nothing
| signal
    {s : Signal}
    (hMade : s.MadeFor i) :
    MadeFor i (.signal s)

/-
  For instructions of its arity, the operation replies only
  what the context makes.
-/
def Operation.Contextual (o : Operation) : Prop :=
  ∀ site b r b',
    site.instruction.arity = o.arity →
    o.action.run site b = (.ok r, b') →
      r.MadeFor site.instruction

/- So do all operations of the table. -/
def Table.Contextual (t : Table) : Prop :=
  ∀ k o, t.entry k = some o → o.Contextual

/- The signal of such an operation is made by the context. -/
theorem Operation.Contextual.signal
    {o : Operation}
    {site : Action.Site}
    {b b' : Action.Bench}
    {s : Signal}
    (hContextual : o.Contextual)
    (hArity : site.instruction.arity = o.arity)
    (hExecute : o.execute site b = (.ok s, b')) :
    s.MadeFor site.instruction := by
  rcases execute_ok_reply hExecute with ⟨r, hRun, hSignal⟩
  cases hContextual _ _ _ _ hArity hRun with
  | nothing =>
      rw [signalOf, Except.ok.injEq] at hSignal
      rw [← hSignal]
      exact .advance
  | signal hMade =>
      rw [signalOf, Except.ok.injEq] at hSignal
      rw [← hSignal]
      exact hMade

------------------------------------------------------------
-- The Standard Operations
------------------------------------------------------------

/- Nothing or a jump: the machine goes on. -/
inductive Reply.Continues : Reply → Prop where
| nothing : Continues .nothing
| jump (address : Int) : Continues (.signal (.jump address))

theorem Reply.Continues.madeFor
    {r : Reply}
    (hContinues : r.Continues)
    (i : Instruction) :
    r.MadeFor i := by
  cases hContinues with
  | nothing => exact .nothing
  | jump address => exact .signal (.jump address)

namespace Operation

variable {site : Action.Site}

theorem obeys_combine
    (f : Int → Int → Int) :
    (combine f).Obeys site Reply.Continues
      (· ∈ site.parameters) :=
  Action.obeys_valueOf 0 fun _ =>
    Action.obeys_valueOf 1 fun _ =>
      Action.obeys_writeTo 2 _ Reply.Continues.nothing

theorem obeys_jumpIf
    (test : Int → Bool) :
    (jumpIf test).Obeys site Reply.Continues
      (· ∈ site.parameters) := by
  refine Action.obeys_valueOf 0 fun a => ?_
  split
  · exact
      Action.obeys_valueOf 1 fun b => Reply.Continues.jump b
  · exact Reply.Continues.nothing

theorem obeys_input
    (source : Source)
    (name : String) :
    (input source name).action.Obeys site Reply.Continues
      (· ∈ site.parameters) :=
  Action.obeys_receiveFrom source fun _ =>
    Action.obeys_writeTo 0 _ Reply.Continues.nothing

theorem obeys_output
    (sink : Sink)
    (name : String) :
    (output sink name).action.Obeys site Reply.Continues
      (· ∈ site.parameters) :=
  Action.obeys_valueOf 0 fun _ =>
    Action.obeys_emitTo sink _ Reply.Continues.nothing

end Operation

namespace Table

variable {source : Source} {sink : Sink}
variable {k : Opcode} {o : Operation}

/- What holds of the nine entries holds of every entry. -/
theorem standard_entries
    {P : Opcode → Operation → Prop}
    (hEntry : (standard source sink).entry k = some o)
    (add : P 1 .add)
    (multiply : P 2 .multiply)
    (input : P 3 (.input source Operation.inputName))
    (output : P 4 (.output sink Operation.outputName))
    (jumpIfNonzero : P 5 .jumpIfNonzero)
    (jumpIfZero : P 6 .jumpIfZero)
    (lessThan : P 7 .lessThan)
    (equals : P 8 .equals)
    (halt : P 99 .halt) :
    P k o := by
  simp only [standard] at hEntry
  split at hEntry <;>
    simp only [Option.some.injEq, reduceCtorEq] at hEntry <;>
    subst hEntry <;>
    assumption

/- All standard operations go on, but for the one that halts. -/
theorem standard_cases
    (hEntry : (standard source sink).entry k = some o) :
    (k = 99 ∧ o = .halt) ∨
      ∀ site,
        o.action.Obeys site Reply.Continues
          (· ∈ site.parameters) := by
  apply standard_entries hEntry
  case input =>
    exact Or.inr fun _ => Operation.obeys_input _ _
  case output =>
    exact Or.inr fun _ => Operation.obeys_output _ _
  case jumpIfNonzero | jumpIfZero =>
    exact Or.inr fun _ => Operation.obeys_jumpIf _
  case halt => exact Or.inl ⟨rfl, rfl⟩
  case add | multiply | lessThan | equals =>
    exact Or.inr fun _ => Operation.obeys_combine _

/- The one that halts has opcode 99 and does nothing else. -/
theorem standard_halts
    {site : Action.Site}
    {b b' : Action.Bench}
    (hEntry : (standard source sink).entry k = some o)
    (hExecute : o.execute site b = (.ok .halt, b')) :
    k = 99 ∧ b' = b := by
  rcases Operation.execute_ok_reply hExecute with
    ⟨r, hRun, hSignal⟩
  rcases standard_cases hEntry with ⟨hOpcode, rfl⟩ | hObeys
  · exact ⟨hOpcode, (Prod.mk.inj hRun).2.symm⟩
  · cases (hObeys site).of_run hRun with
    | nothing => simp [Operation.signalOf] at hSignal
    | jump address => simp [Operation.signalOf] at hSignal

/- None of them suspends the machine. -/
theorem standard_ne_suspend
    {site : Action.Site}
    {b b' : Action.Bench}
    {s : Signal}
    (hEntry : (standard source sink).entry k = some o)
    (hExecute : o.execute site b = (.ok s, b')) :
    s ≠ .suspend := by
  rcases Operation.execute_ok_reply hExecute with
    ⟨r, hRun, hSignal⟩
  rintro rfl
  rcases standard_cases hEntry with ⟨-, rfl⟩ | hObeys
  · rw [← Except.ok.inj (Prod.mk.inj hRun).1] at hSignal
    simp [Operation.signalOf] at hSignal
  · cases (hObeys site).of_run hRun with
    | nothing => simp [Operation.signalOf] at hSignal
    | jump address => simp [Operation.signalOf] at hSignal

/- The standard operations reply what the context makes. -/
theorem contextual_standard
    (source : Source)
    (sink : Sink) :
    (standard source sink).Contextual := by
  intro k o hEntry site b r b' _ hRun
  rcases standard_cases hEntry with ⟨-, rfl⟩ | hObeys
  · have hHalts :
        Operation.halt.action.Obeys site
          (fun r => r = .signal .halt) (fun _ => True) :=
      rfl
    rw [hHalts.of_run hRun]
    exact .signal .halt
  · exact ((hObeys site).of_run hRun).madeFor site.instruction

/- What holds of all entries holds after one more is put. -/
theorem entries_set
    {t : Table}
    {P : Operation → Prop}
    (hTable : ∀ j o', t.entry j = some o' → P o')
    (hAdded : P o)
    (k : Opcode) :
    ∀ j o', (t.set k o).entry j = some o' → P o' := by
  intro j o' hEntry
  simp only [Table.set] at hEntry
  split at hEntry
  · rw [← Option.some.inj hEntry]
    exact hAdded
  · exact hTable j o' hEntry

theorem Contextual.set
    {t : Table}
    (hTable : t.Contextual)
    (hAction : o.Contextual)
    (k : Opcode) :
    (t.set k o).Contextual :=
  entries_set hTable hAction k

end Table

------------------------------------------------------------
-- Operations That Catch Failures
------------------------------------------------------------

/-
  In place of an output: go on past a cell that can be read,
  and else halt.
-/
def Operation.probe : Operation :=
  { output .standard "PROBE" with
    action :=
      .parameter 0 fun p =>
        .value p fun x =>
          if x.isOk then .advance else .signal .halt }

/-
  The standard table, but its input is taken from a queue,
  and the opcode four probes a cell.
-/
def Table.probing : Table :=
  (onConsole.set 3
    (.queuedInput 0 Operation.inputName)).set 4 .probe

namespace Operation

theorem contextual_probe : probe.Contextual := by
  intro site b r b' _ hRun
  have hObeys :
      probe.action.Obeys site (Reply.MadeFor site.instruction)
        (fun _ => True) := by
    refine Action.obeys_parameter 0 fun p _ x => ?_
    dsimp only
    split
    · exact .nothing
    · exact .signal .halt
  exact hObeys.of_run hRun

theorem contextual_queuedInput
    (queue : Nat)
    (name : String) :
    (queuedInput queue name).Contextual := by
  intro site b r b' _ hRun
  have hObeys :
      (queuedInput queue name).action.Obeys site
        (Reply.MadeFor site.instruction)
        (· ∈ site.parameters) := by
    intro n
    cases n with
    | some n => exact Action.obeys_writeTo 0 n .nothing
    | none =>
        dsimp only [Action.counter, Action.Obeys]
        split
        · trivial
        · exact .signal .suspend
  exact hObeys.of_run hRun

end Operation

theorem Table.contextual_probing : probing.Contextual :=
  ((contextual_standard .standard .standard).set
    (Operation.contextual_queuedInput 0 _) 3).set
      Operation.contextual_probe 4

end IntcodeMachine
