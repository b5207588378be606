import IntcodeMachine.Proofs.Execution.Runs

/-
  This file compares rigs up to tracing: two rigs agree if
  they differ in nothing but whether a trace is kept, its
  lines, and the log.

  Neither an operation nor the machine reads any of these.
  So whatever is done to two rigs that agree has the same
  result, and leaves rigs that agree.

  Main declarations:
    * `Rig.Agrees`
    * `Alike`
    * `Action.run_alike`
    * `Rig.Agrees.attempt`
    * `Rig.Agrees.apply`
    * `Rig.loop_rel`
-/

------------------------------------------------------------
-- Agreement
------------------------------------------------------------

namespace IntcodeMachine

/- The machine as if it had never kept a trace. -/
def Machine.untraced (m : Machine) : Machine :=
  { m with tracing := false, trace := [] }

/- The rig without trace and log. -/
def Rig.bare (r : Rig) : Rig :=
  ⟨r.machine.untraced, r.host.quiet⟩

/- The hosts differ in their logs alone. -/
def Host.Agrees (h₁ h₂ : Host) : Prop :=
  h₁.quiet = h₂.quiet

/- The tapes are the same, and the hosts agree. -/
def Action.Bench.Agrees (b₁ b₂ : Action.Bench) : Prop :=
  b₁.tape = b₂.tape ∧ b₁.host.Agrees b₂.host

/- The rigs differ in tracing, traces and logs alone. -/
def Rig.Agrees (r₁ r₂ : Rig) : Prop :=
  r₁.bare = r₂.bare

/- The results are the same, and what is left is related. -/
def Alike
    {α σ : Type}
    (same : σ → σ → Prop)
    (x y : α × σ) : Prop :=
  x.1 = y.1 ∧ same x.2 y.2

/- Alike pairs, taken apart. -/
theorem Alike.parts
    {α σ : Type}
    {same : σ → σ → Prop}
    {x y : α × σ}
    (hAlike : Alike same x y) :
    ∃ a s t, x = (a, s) ∧ y = (a, t) ∧ same s t :=
  ⟨x.1, x.2, y.2, rfl, Prod.ext hAlike.1.symm rfl, hAlike.2⟩

theorem Rig.agrees_iff
    {r₁ r₂ : Rig} :
    r₁.Agrees r₂ ↔
      r₁.machine.untraced = r₂.machine.untraced ∧
        r₁.host.Agrees r₂.host := by
  simp [Agrees, bare, Host.Agrees]

/- A host that agrees has the same contents. -/
theorem Host.Agrees.exists_log
    {h₁ h₂ : Host}
    (hAgrees : h₁.Agrees h₂) :
    ∃ log, h₂ = { h₁ with log := log } := by
  refine ⟨h₂.log, ?_⟩
  cases h₁
  cases h₂
  simp_all [Host.Agrees, quiet]

/- A machine that is the same but for its trace. -/
theorem Machine.exists_trace
    {m₁ m₂ : Machine}
    (hUntraced : m₁.untraced = m₂.untraced) :
    ∃ tracing trace,
      m₂ = { m₁ with tracing := tracing, trace := trace } := by
  refine ⟨m₂.tracing, m₂.trace, ?_⟩
  cases m₁
  cases m₂
  simp_all [untraced]

/- A rig that agrees, in terms of the other. -/
theorem Rig.Agrees.exists_parts
    {r₁ r₂ : Rig}
    (hAgrees : r₁.Agrees r₂) :
    ∃ tracing trace log,
      r₂ =
        ⟨{ r₁.machine with
            tracing := tracing, trace := trace },
          { r₁.host with log := log }⟩ := by
  rcases agrees_iff.mp hAgrees with ⟨hMachine, hHost⟩
  rcases Machine.exists_trace hMachine with
    ⟨tracing, trace, hMachine⟩
  rcases hHost.exists_log with ⟨log, hHost⟩
  exact ⟨tracing, trace, log, by rw [← hMachine, ← hHost]⟩

theorem Alike.symm
    {α : Type}
    {x y : α × Rig}
    (hAlike : Alike Rig.Agrees x y) :
    Alike Rig.Agrees y x :=
  ⟨hAlike.1.symm, Eq.symm hAlike.2⟩

theorem Alike.trans
    {α : Type}
    {x y z : α × Rig}
    (hFirst : Alike Rig.Agrees x y)
    (hSecond : Alike Rig.Agrees y z) :
    Alike Rig.Agrees x z :=
  ⟨hFirst.1.trans hSecond.1, Eq.trans hFirst.2 hSecond.2⟩

/- Two results that are related are both there, or neither. -/
theorem rel_cases
    {α σ : Type}
    {same : σ → σ → Prop}
    {x y : Option (α × σ)}
    (hRel : Option.Rel (Alike same) x y) :
    (x = none ∧ y = none) ∨
      ∃ a s t, x = some (a, s) ∧ y = some (a, t) ∧
        same s t := by
  cases hRel with
  | none => exact Or.inl ⟨rfl, rfl⟩
  | some hAlike =>
      rcases hAlike.parts with ⟨a, s, t, rfl, rfl, hLeft⟩
      exact Or.inr ⟨a, s, t, rfl, rfl, hLeft⟩

------------------------------------------------------------
-- Channels
------------------------------------------------------------

namespace Host

/- A source gives the same whatever the log holds. -/
theorem Agrees.receive
    {h₁ h₂ : Host}
    (hAgrees : h₁.Agrees h₂)
    (s : Source) :
    Alike Agrees (h₁.receive s) (h₂.receive s) := by
  rcases hAgrees.exists_log with ⟨log, rfl⟩
  cases s with
  | constant n => exact ⟨rfl, rfl⟩
  | script slot =>
      simp only [Host.receive, receiveScripted, script]
      split
      · exact ⟨rfl, rfl⟩
      · exact ⟨rfl, rfl⟩
  | console prompt supply =>
      cases supply with
      | feed slot =>
          simp only [Host.receive, receiveFed, feed]
          split
          · exact ⟨rfl, rfl⟩
          · exact ⟨rfl, rfl⟩
      | keyboard =>
          simp only [Host.receive, receiveTyped]
          split
          · exact ⟨rfl, rfl⟩
          · exact ⟨rfl, rfl⟩

/- A sink takes the same whatever the log holds. -/
theorem Agrees.emit
    {h₁ h₂ : Host}
    (hAgrees : h₁.Agrees h₂)
    (n : Int)
    (s : Sink) :
    Alike Agrees (h₁.emit n s) (h₂.emit n s) := by
  rcases hAgrees.exists_log with ⟨log, rfl⟩
  cases s with
  | collector slot => exact ⟨rfl, rfl⟩
  | console preface display =>
      unfold Host.emit
      dsimp only
      cases Numeral.written n with
      | error e => exact ⟨rfl, rfl⟩
      | ok numeral =>
          cases display with
          | sheet slot => exact ⟨rfl, rfl⟩
          | screen => exact ⟨rfl, rfl⟩

/- A queue gives the same whatever the log holds. -/
theorem Agrees.take
    {h₁ h₂ : Host}
    (hAgrees : h₁.Agrees h₂)
    (slot : Nat) :
    Alike Agrees (h₁.take slot) (h₂.take slot) := by
  rcases hAgrees.exists_log with ⟨log, rfl⟩
  simp only [Host.take, queued]
  split
  · exact ⟨rfl, rfl⟩
  · exact ⟨rfl, rfl⟩

/- Integers are remembered whatever the log holds. -/
theorem Agrees.keep
    {h₁ h₂ : Host}
    (hAgrees : h₁.Agrees h₂)
    (slot : Nat)
    (ns : List Int) :
    (h₁.keep slot ns).Agrees (h₂.keep slot ns) := by
  rcases hAgrees.exists_log with ⟨log, rfl⟩
  rfl

/- Logs may grow by different messages. -/
theorem Agrees.note
    {h₁ h₂ : Host}
    (hAgrees : h₁.Agrees h₂)
    (record₁ record₂ : Log.Record) :
    (h₁.note record₁).Agrees (h₂.note record₂) :=
  hAgrees

end Host

------------------------------------------------------------
-- Operations
------------------------------------------------------------

namespace Action

/- An action sees the same on benches that agree. -/
theorem Bench.Agrees.quiet
    {b₁ b₂ : Bench}
    (hAgrees : b₁.Agrees b₂) :
    b₁.quiet = b₂.quiet := by
  rcases b₁ with ⟨t₁, h₁⟩
  rcases b₂ with ⟨t₂, h₂⟩
  rcases hAgrees with ⟨rfl, hHost⟩
  exact congrArg (Bench.mk t₁) hHost

/- An action does the same whatever the log holds. -/
theorem run_alike
    (site : Site)
    (a : Action)
    {b₁ b₂ : Bench}
    (hAgrees : b₁.Agrees b₂) :
    Alike Bench.Agrees (a.run site b₁) (a.run site b₂) := by
  induction a generalizing b₁ b₂ with
  | reply r => exact ⟨rfl, hAgrees⟩
  | refuse e => exact ⟨rfl, hAgrees⟩
  | inspect next ih => exact ih site hAgrees
  | look next ih =>
      simp only [run]
      rw [hAgrees.quiet]
      exact ih _ hAgrees
  | value p next ih =>
      simp only [run]
      rw [hAgrees.1]
      exact ih _ hAgrees
  | write p word next ih =>
      simp only [run]
      rw [hAgrees.1]
      split
      · exact ih _ hAgrees
      · exact ih _ ⟨rfl, hAgrees.2⟩
  | receive source next ih =>
      rcases (hAgrees.2.receive source).parts with
        ⟨x, h₁, h₂, hFirst, hSecond, hLeft⟩
      simp only [run, hFirst, hSecond]
      exact ih x ⟨hAgrees.1, hLeft⟩
  | emit sink word next ih =>
      rcases (hAgrees.2.emit word sink).parts with
        ⟨x, h₁, h₂, hFirst, hSecond, hLeft⟩
      simp only [run, hFirst, hSecond]
      exact ih x ⟨hAgrees.1, hLeft⟩
  | take queue next ih =>
      rcases (hAgrees.2.take queue).parts with
        ⟨n, h₁, h₂, hFirst, hSecond, hLeft⟩
      simp only [run, hFirst, hSecond]
      exact ih n ⟨hAgrees.1, hLeft⟩
  | keep memory ns next ih =>
      exact ih ⟨hAgrees.1, hAgrees.2.keep memory ns⟩
  | note record next ih =>
      exact ih ⟨hAgrees.1, hAgrees.2.note record record⟩

end Action

/- An operation does the same whatever the log holds. -/
theorem Operation.execute_alike
    (o : Operation)
    (site : Action.Site)
    {b₁ b₂ : Action.Bench}
    (hAgrees : b₁.Agrees b₂) :
    Alike Action.Bench.Agrees
      (o.execute site b₁) (o.execute site b₂) := by
  unfold execute
  split
  · rcases (o.action.run_alike site hAgrees).parts with
      ⟨x, b₁', b₂', hFirst, hSecond, hLeft⟩
    rw [hFirst, hSecond]
    cases x with
    | error e => exact ⟨rfl, hLeft⟩
    | ok r => exact ⟨rfl, hLeft⟩
  · exact ⟨rfl, hAgrees⟩

------------------------------------------------------------
-- Attempts And Signals
------------------------------------------------------------

namespace Rig

variable {r₁ r₂ : Rig}

theorem Agrees.symm
    (hAgrees : r₁.Agrees r₂) :
    r₂.Agrees r₁ :=
  Eq.symm hAgrees

/- What a machine holds is the same on rigs that agree. -/
theorem Agrees.machine
    (hAgrees : r₁.Agrees r₂) :
    r₁.machine.tape = r₂.machine.tape ∧
      r₁.machine.table = r₂.machine.table ∧
      r₁.machine.pointer = r₂.machine.pointer ∧
      r₁.machine.state = r₂.machine.state ∧
      r₁.machine.steps = r₂.machine.steps := by
  rcases hAgrees.exists_parts with ⟨tracing, trace, log, rfl⟩
  exact ⟨rfl, rfl, rfl, rfl, rfl⟩

theorem Agrees.enter
    (hAgrees : r₁.Agrees r₂)
    (s : RunState) :
    (r₁.enter s).Agrees (r₂.enter s) := by
  rcases hAgrees.exists_parts with ⟨tracing, trace, log, rfl⟩
  rfl

theorem Agrees.counted
    (hAgrees : r₁.Agrees r₂) :
    r₁.counted.Agrees r₂.counted := by
  rcases hAgrees.exists_parts with ⟨tracing, trace, log, rfl⟩
  rfl

/- A run is entered alike, whatever is logged of it. -/
theorem Agrees.entered
    (hAgrees : r₁.Agrees r₂) :
    r₁.entered.Agrees r₂.entered := by
  rcases hAgrees.exists_parts with ⟨tracing, trace, log, rfl⟩
  simp only [Rig.entered, resumed]
  split
  · rfl
  · rfl

theorem Agrees.fetch
    (hAgrees : r₁.Agrees r₂) :
    r₁.machine.fetch = r₂.machine.fetch := by
  rcases hAgrees.exists_parts with ⟨tracing, trace, log, rfl⟩
  rfl

theorem Agrees.operands
    (hAgrees : r₁.Agrees r₂)
    (i : Instruction) :
    r₁.machine.operands i = r₂.machine.operands i := by
  rcases hAgrees.exists_parts with ⟨tracing, trace, log, rfl⟩
  rfl

theorem Agrees.afterAction
    (hAgrees : r₁.Agrees r₂)
    {b₁ b₂ : Action.Bench}
    (hBench : b₁.Agrees b₂) :
    (r₁.afterAction b₁).Agrees (r₂.afterAction b₂) := by
  rcases hAgrees.exists_parts with ⟨tracing, trace, log, rfl⟩
  rcases hBench with ⟨hTape, hHost⟩
  refine agrees_iff.mpr ⟨?_, hHost⟩
  simp only [Rig.afterAction, hTape, Machine.untraced]

/- An attempt does not look at trace and log. -/
theorem Agrees.attempt
    (hAgrees : r₁.Agrees r₂) :
    Alike Agrees r₁.attempt r₂.attempt := by
  have hBench :
      Action.Bench.Agrees
        ⟨r₁.machine.tape, r₁.host⟩
        ⟨r₂.machine.tape, r₂.host⟩ :=
    ⟨hAgrees.machine.1, (agrees_iff.mp hAgrees).2⟩
  unfold Rig.attempt
  rw [← hAgrees.fetch]
  rcases r₁.machine.fetch with e | ⟨o, i⟩
  · exact ⟨rfl, hAgrees⟩
  · dsimp only
    rw [← hAgrees.operands i]
    rcases r₁.machine.operands i with e | ps
    · exact ⟨rfl, hAgrees⟩
    · dsimp only
      rcases (o.execute_alike ⟨i, ps⟩ hBench).parts with
        ⟨x, b₁, b₂, hFirst, hSecond, hLeft⟩
      rw [hFirst, hSecond]
      cases x with
      | error e => exact ⟨rfl, hAgrees.afterAction hLeft⟩
      | ok s => exact ⟨rfl, hAgrees.afterAction hLeft⟩

/- A signal is applied without a look at trace and log. -/
theorem Agrees.apply
    (hAgrees : r₁.Agrees r₂)
    (s : Signal) :
    Alike Agrees (r₁.apply s) (r₂.apply s) := by
  rcases hAgrees.exists_parts with ⟨tracing, trace, log, rfl⟩
  cases s with
  | advance length => exact ⟨rfl, rfl⟩
  | jump address =>
      simp only [Rig.apply]
      split
      · exact ⟨rfl, rfl⟩
      · exact ⟨rfl, rfl⟩
  | halt => exact ⟨rfl, rfl⟩
  | suspend => exact ⟨rfl, rfl⟩
  | unknown => exact ⟨rfl, rfl⟩

------------------------------------------------------------
-- Loops
------------------------------------------------------------

/-
  Loops go alike if related rigs are in the same state, and
  if those that the loops reach take an instruction alike.
-/
theorem loop_rel
    {same : Rig → Rig → Prop}
    (hState :
      ∀ s₁ s₂, same s₁ s₂ →
        s₁.machine.state = s₂.machine.state)
    (budget : Nat)
    (hSame : same r₁ r₂)
    (hDispatch :
      ∀ n s₁ s₂, Reaches n r₁ s₁ → Reaches n r₂ s₂ →
        same s₁ s₂ → Alike same s₁.dispatch s₂.dispatch) :
    Option.Rel (Alike same)
      (loop budget r₁) (loop budget r₂) := by
  induction budget generalizing r₁ r₂ with
  | zero => exact Option.Rel.none
  | succ budget ih =>
      have hAlike :=
        hDispatch 0 r₁ r₂ (Reaches.here r₁)
          (Reaches.here r₂) hSame
      rcases hAlike.parts with
        ⟨o, r₁', r₂', hFirst, hSecond, hLeft⟩
      rw [loop, loop, hFirst, hSecond]
      cases o with
      | error e => exact Option.Rel.some ⟨rfl, hLeft⟩
      | ok s =>
          have hAfter := hState r₁' r₂' hLeft
          dsimp only
          rw [← hAfter]
          cases hStopped : r₁'.machine.state.isStopped with
          | true => exact Option.Rel.some ⟨rfl, hLeft⟩
          | false =>
              refine
                ih hLeft fun n s₁ s₂ hOne hTwo hRelated => ?_
              exact
                hDispatch (n + 1) s₁ s₂
                  (Reaches.next hFirst hStopped hOne)
                  (Reaches.next hSecond (hAfter ▸ hStopped)
                    hTwo)
                  hRelated

end Rig

end IntcodeMachine
