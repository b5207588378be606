import IntcodeMachine.Proofs.Execution.Outputs
import IntcodeMachine.Proofs.Execution.Replacement
import IntcodeMachine.Proofs.Execution.Replies
import IntcodeMachine.Proofs.Tracing.Agreement
import Mathlib.Data.Fintype.Basic
import Mathlib.Tactic.FinCases

/-
  This file runs two machines side by side that differ in
  where their outputs go: the first one collects them, and
  the second one prints them on the screen.

  Both take their inputs from the same script. As long as
  all outputs can be written, the machines do the same, and
  the screen of the second one shows what the first one has
  collected, line by line. No warning is logged.

  Main declarations:
    * `Console.printed`
    * `Action.Echoes`
    * `Rig.Echoes`
    * `Rig.Echoes.dispatch`
    * `Rig.Echoes.run`
-/

------------------------------------------------------------
-- Printed Integers
------------------------------------------------------------

namespace IntcodeMachine

namespace Console

/- Integers as they are printed, each on its own line. -/
def printed : List Int → String
| [] => ""
| n :: rest =>
    standardPreface ++ Numeral.render n ++ "\n" ++ printed rest

theorem printed_append
    (ns : List Int)
    (n : Int) :
    printed (ns ++ [n]) =
      printed ns ++
        (standardPreface ++ Numeral.render n ++ "\n") := by
  induction ns with
  | nil => simp [printed]
  | cons first rest ih =>
      rw [List.cons_append, printed, ih, printed]
      simp only [String.append_assoc]

end Console

------------------------------------------------------------
-- Hosts
------------------------------------------------------------

namespace Host

/-
  The second host has the same scripts, and its screen shows
  what the first one has collected. It has logged no warning.
-/
structure Echoes
    (slot : Nat)
    (h₁ h₂ : Host) : Prop where
  scripts : h₂.scripts = h₁.scripts
  collector : slot < h₁.collectors.length
  screen : h₂.screen = Console.printed (h₁.collected slot)
  log : ∀ record ∈ h₂.log, record.level ≠ .warning

namespace Echoes

variable {slot : Nat} {h₁ h₂ : Host}

theorem receive
    (hEchoes : h₁.Echoes slot h₂)
    (k : Nat) :
    Alike (Echoes slot) (h₁.receive (.script k))
      (h₂.receive (.script k)) := by
  have hScript : h₂.script k = h₁.script k := by
    rw [script, script, hEchoes.scripts]
  simp only [Host.receive, receiveScripted, hScript,
    hEchoes.scripts]
  cases (h₁.script k).remaining with
  | nil => exact ⟨rfl, hEchoes⟩
  | cons n rest =>
      exact
        ⟨rfl, rfl, hEchoes.collector, hEchoes.screen,
          hEchoes.log⟩

/- An integer that can be written is collected and printed. -/
theorem emit
    {n : Int}
    (hEchoes : h₁.Echoes slot h₂)
    (hWritable : Numeral.Writable n) :
    Alike (Echoes slot) (h₁.emit n (.collector slot))
      (h₂.emit n .standard) := by
  have hWritten :
      Numeral.written n = .ok (Numeral.render n) := by
    rw [Numeral.written, if_pos hWritable]
  have hPrinted :
      h₂.emit n .standard =
        (.ok (),
          h₂.printLine
            (Console.standardPreface ++ Numeral.render n)) := by
    unfold Sink.standard Host.emit
    dsimp only
    rw [hWritten]
    rfl
  rw [hPrinted]
  refine ⟨rfl, hEchoes.scripts, ?_, ?_, hEchoes.log⟩
  · rw [emit_collector, List.length_set]
    exact hEchoes.collector
  · rw [collected_emit hEchoes.collector,
      Console.printed_append, ← hEchoes.screen]
    rfl

/- Messages that are no warnings make no difference. -/
theorem note
    {record₁ record₂ : Log.Record}
    (hEchoes : h₁.Echoes slot h₂)
    (hLevel : record₂.level ≠ .warning) :
    (h₁.note record₁).Echoes slot (h₂.note record₂) where
  scripts := hEchoes.scripts
  collector := hEchoes.collector
  screen := hEchoes.screen
  log := by
    intro record hMember
    rcases List.mem_append.mp hMember with hOld | hNew
    · exact hEchoes.log record hOld
    · rw [List.mem_singleton.mp hNew]
      exact hLevel

end Echoes

end Host

------------------------------------------------------------
-- Actions
------------------------------------------------------------

/-
  The second action does what the first one does, but prints
  what the first one collects.
-/
inductive Action.Echoes (slot : Nat) : Action → Action → Prop where
| reply (r : Reply) : Echoes slot (.reply r) (.reply r)
| refuse (e : Failure) : Echoes slot (.refuse e) (.refuse e)
| inspect
    {next next' : Site → Action}
    (hNext : ∀ site, Echoes slot (next site) (next' site)) :
    Echoes slot (.inspect next) (.inspect next')
| value
    {p : Parameter} {next next' : Except Failure Int → Action}
    (hNext : ∀ x, Echoes slot (next x) (next' x)) :
    Echoes slot (.value p next) (.value p next')
| write
    {p : Parameter} {word : Int}
    {next next' : Except Failure Unit → Action}
    (hNext : ∀ x, Echoes slot (next x) (next' x)) :
    Echoes slot (.write p word next) (.write p word next')
| receive
    {k : Nat} {next next' : Except Failure Int → Action}
    (hNext : ∀ x, Echoes slot (next x) (next' x)) :
    Echoes slot (.receive (.script k) next)
      (.receive (.script k) next')
| emit
    {word : Int} {next next' : Except Failure Unit → Action}
    (hNext : ∀ x, Echoes slot (next x) (next' x)) :
    Echoes slot (.emit (.collector slot) word next)
      (.emit .standard word next')

/- The tapes are the same, and the second host echoes. -/
def Action.Bench.Echoes
    (slot : Nat)
    (b₁ b₂ : Action.Bench) : Prop :=
  b₂.tape = b₁.tape ∧ b₁.host.Echoes slot b₂.host

namespace Action

variable {slot : Nat}

/- If its outputs can be written, the second action echoes. -/
theorem Echoes.run
    {site : Site}
    {a₁ a₂ : Action}
    {b₁ b₂ : Bench}
    (hActions : a₁.Echoes slot a₂)
    (hBenches : b₁.Echoes slot b₂)
    (hWritable :
      Numeral.AllWritable
        ((a₁.run site b₁).2.host.collected slot)) :
    Alike (Bench.Echoes slot) (a₁.run site b₁)
      (a₂.run site b₂) := by
  induction hActions generalizing b₁ b₂ with
  | reply r => exact ⟨rfl, hBenches⟩
  | refuse e => exact ⟨rfl, hBenches⟩
  | inspect hNext ih => exact ih site hBenches hWritable
  | value hNext ih =>
      rw [Action.run] at hWritable
      rw [Action.run, Action.run, hBenches.1]
      exact ih _ hBenches hWritable
  | write hNext ih =>
      rename_i p word next next'
      rw [Action.run] at hWritable
      rw [Action.run, Action.run, hBenches.1]
      rcases hStore : store site b₁.tape p word with e | t
      · rw [hStore] at hWritable
        exact ih _ hBenches hWritable
      · rw [hStore] at hWritable
        exact ih _ ⟨rfl, hBenches.2⟩ hWritable
  | receive hNext ih =>
      rename_i k next next'
      rw [Action.run] at hWritable
      rcases (hBenches.2.receive k).parts with
        ⟨x, h₁, h₂, hFirst, hSecond, hEchoes⟩
      rw [hFirst] at hWritable
      rw [Action.run, Action.run, hFirst, hSecond]
      exact ih x ⟨hBenches.1, hEchoes⟩ hWritable
  | emit hNext ih =>
      rename_i word next next'
      rw [Action.run] at hWritable
      -- what is collected here stays collected to the end
      have hKept :=
        (next (.ok ())).collected_prefix_run site
          (b₁.withHost
            (b₁.host.emit word (.collector slot)).2) slot
      have hWord : Numeral.Writable word := by
        refine hWritable word (hKept.subset ?_)
        simp only [Bench.withHost,
          Host.collected_emit hBenches.2.collector]
        exact List.mem_append_right _ List.mem_cons_self
      rcases (hBenches.2.emit hWord).parts with
        ⟨x, h₁, h₂, hFirst, hSecond, hEchoes⟩
      rw [hFirst] at hWritable
      rw [Action.run, Action.run, hFirst, hSecond]
      exact ih x ⟨hBenches.1, hEchoes⟩ hWritable

theorem echoes_orFail
    {α : Type}
    {next next' : α → Action}
    (hNext : ∀ x, (next x).Echoes slot (next' x))
    (x : Except Failure α) :
    (orFail next x).Echoes slot (orFail next' x) := by
  cases x with
  | error e => exact .refuse e
  | ok x => exact hNext x

theorem echoes_parameter
    {next next' : Parameter → Action}
    (k : Nat)
    (hNext : ∀ p, (next p).Echoes slot (next' p)) :
    (parameter k next).Echoes slot (parameter k next') := by
  refine .inspect fun site => ?_
  cases site.parameters[k]? with
  | none => exact .refuse _
  | some p => exact hNext p

theorem echoes_valueOf
    {next next' : Int → Action}
    (k : Nat)
    (hNext : ∀ n, (next n).Echoes slot (next' n)) :
    (valueOf k next).Echoes slot (valueOf k next') :=
  echoes_parameter k fun _ => .value (echoes_orFail hNext)

theorem echoes_writeTo
    {next next' : Action}
    (k : Nat)
    (word : Int)
    (hNext : next.Echoes slot next') :
    (writeTo k word next).Echoes slot (writeTo k word next') :=
  echoes_parameter k fun _ =>
    .write (echoes_orFail fun _ => hNext)

theorem echoes_receiveFrom
    {next next' : Int → Action}
    (k : Nat)
    (hNext : ∀ n, (next n).Echoes slot (next' n)) :
    (receiveFrom (.script k) next).Echoes slot
      (receiveFrom (.script k) next') :=
  .receive (echoes_orFail hNext)

theorem echoes_emitTo
    {next next' : Action}
    (word : Int)
    (hNext : next.Echoes slot next') :
    (emitTo (.collector slot) word next).Echoes slot
      (emitTo .standard word next') :=
  .emit (echoes_orFail fun _ => hNext)

end Action

/- So does the operation that it makes. -/
theorem Operation.execute_echoes
    {slot : Nat}
    {o : Operation}
    {a : Action}
    {site : Action.Site}
    {b₁ b₂ : Action.Bench}
    (hActions : o.action.Echoes slot a)
    (hBenches : b₁.Echoes slot b₂)
    (hWritable :
      Numeral.AllWritable
        ((o.execute site b₁).2.host.collected slot)) :
    Alike (Action.Bench.Echoes slot) (o.execute site b₁)
      ((o.withAction a).execute site b₂) := by
  unfold execute at hWritable ⊢
  by_cases hCount : site.parameters.length = o.arity
  · rw [if_pos hCount] at hWritable ⊢
    rw [if_pos (show _ = (o.withAction a).arity from hCount)]
    have hFinal :
        Numeral.AllWritable
          ((o.action.run site b₁).2.host.collected slot) := by
      rcases hRun : o.action.run site b₁ with ⟨e | r, b⟩
      · rw [hRun] at hWritable
        exact hWritable
      · rw [hRun] at hWritable
        exact hWritable
    rcases (hActions.run hBenches hFinal).parts with
      ⟨x, b₁', b₂', hFirst, hSecond, hEchoes⟩
    rw [hFirst, show (o.withAction a).action = a from rfl,
      hSecond]
    cases x with
    | error e => exact ⟨rfl, hEchoes⟩
    | ok r => exact ⟨rfl, hEchoes⟩
  · rw [if_neg hCount,
      if_neg (show ¬ _ = (o.withAction a).arity from hCount)]
    exact ⟨rfl, hBenches⟩

------------------------------------------------------------
-- The Standard Operations
------------------------------------------------------------

namespace Table

/- What the standard operations do when they print. -/
def printing
    (source : Source)
    (k : Opcode) : Action :=
  match (standard source .standard).entry k with
  | some o => o.action
  | none => .advance

variable (script slot : Nat)

/- The tables differ in what the operations do. -/
theorem withActions_printing :
    (standard (.script script) (.collector slot)).withActions
        (printing (.script script)) =
      standard (.script script) .standard := by
  have hEntry :
      ∀ k,
        ((standard (.script script)
              (.collector slot)).withActions
            (printing (.script script))).entry k =
          (standard (.script script) .standard).entry k := by
    intro k
    fin_cases k <;> rfl
  rw [mk.injEq]
  exact funext hEntry

/- A sum or a comparison touches the tape only. -/
theorem echoes_combine
    (f : Int → Int → Int) :
    (Operation.combine f).Echoes slot (Operation.combine f) :=
  Action.echoes_valueOf 0 fun _ =>
    Action.echoes_valueOf 1 fun _ =>
      Action.echoes_writeTo 2 _ (.reply _)

/- So does a jump. -/
theorem echoes_jumpIf
    (test : Int → Bool) :
    (Operation.jumpIf test).Echoes slot
      (Operation.jumpIf test) := by
  refine Action.echoes_valueOf 0 fun a => ?_
  cases test a with
  | true => exact Action.echoes_valueOf 1 fun b => .reply _
  | false => exact .reply _

/- Where one collects, the other one prints. -/
theorem echoes_standard
    {k : Opcode}
    {o : Operation}
    (hEntry :
      (standard (.script script) (.collector slot)).entry k =
        some o) :
    o.action.Echoes slot (printing (.script script) k) := by
  apply standard_entries hEntry
  case input =>
    exact
      Action.echoes_receiveFrom script fun n =>
        Action.echoes_writeTo 0 n (.reply _)
  case output =>
    exact
      Action.echoes_valueOf 0 fun n =>
        Action.echoes_emitTo n (.reply _)
  case jumpIfNonzero | jumpIfZero =>
    exact echoes_jumpIf slot _
  case halt => exact .reply _
  case add | multiply | lessThan | equals =>
    exact echoes_combine slot _

end Table

------------------------------------------------------------
-- Rigs Side By Side
------------------------------------------------------------

namespace Rig

/-
  The first rig collects its outputs, and the second one is
  the same but for printing them.
-/
structure Echoes
    (script slot : Nat)
    (r₁ r₂ : Rig) : Prop where
  table :
    r₁.machine.table =
      .standard (.script script) (.collector slot)
  machine :
    r₂.machine =
      r₁.machine.withActions
        (Table.printing (.script script))
  host : r₁.host.Echoes slot r₂.host

namespace Echoes

variable {script slot : Nat} {r₁ r₂ : Rig}

theorem state
    (hEchoes : r₁.Echoes script slot r₂) :
    r₁.machine.state = r₂.machine.state := by
  rw [hEchoes.machine]
  rfl

theorem tape
    (hEchoes : r₁.Echoes script slot r₂) :
    r₂.machine.tape = r₁.machine.tape := by
  rw [hEchoes.machine]
  rfl

theorem enter
    (hEchoes : r₁.Echoes script slot r₂)
    (s : RunState) :
    (r₁.enter s).Echoes script slot (r₂.enter s) where
  table := hEchoes.table
  machine := by
    rw [Rig.enter, Rig.enter, hEchoes.machine]
    rfl
  host := hEchoes.host

theorem counted
    (hEchoes : r₁.Echoes script slot r₂) :
    r₁.counted.Echoes script slot r₂.counted where
  table := hEchoes.table
  machine := by
    rw [Rig.counted, Rig.counted, hEchoes.machine]
    rfl
  host := hEchoes.host

/- A signal is applied alike. -/
theorem apply
    (hEchoes : r₁.Echoes script slot r₂)
    (s : Signal) :
    Alike (Echoes script slot) (r₁.apply s) (r₂.apply s) := by
  rcases r₂ with ⟨m, h⟩
  rcases hEchoes with ⟨hTable, hMachine, hHost⟩
  dsimp only at hMachine hHost
  subst hMachine
  cases s with
  | advance length => exact ⟨rfl, hTable, rfl, hHost⟩
  | jump address =>
      have hTape :
          (r₁.machine.withActions
              (Table.printing (.script script))).tape =
            r₁.machine.tape :=
        rfl
      simp only [Rig.apply, hTape]
      by_cases hInside : r₁.machine.tape.Contains address
      · simp only [if_pos hInside]
        exact ⟨rfl, hTable, rfl, hHost⟩
      · simp only [if_neg hInside]
        exact ⟨rfl, hTable, rfl, hHost⟩
  | halt => exact ⟨rfl, hTable, rfl, hHost.note (by simp)⟩
  | suspend => exact ⟨rfl, hTable, rfl, hHost.note (by simp)⟩
  | unknown => exact ⟨rfl, hTable, rfl, hHost⟩

/- So is a line of the trace written. -/
theorem traced
    (hEchoes : r₁.Echoes script slot r₂)
    (l : Trace.Line) :
    Alike (Echoes script slot) (r₁.traced l)
      (r₂.traced l) := by
  rcases r₂ with ⟨m, h⟩
  rcases hEchoes with ⟨hTable, hMachine, hHost⟩
  dsimp only at hMachine hHost
  subst hMachine
  have hSame :
      (r₁.machine.withActions
          (Table.printing (.script script))).tracing =
        r₁.machine.tracing :=
    rfl
  simp only [Rig.traced, hSame]
  by_cases hTracing : r₁.machine.tracing = true
  · simp only [if_pos hTracing]
    by_cases hWritable : l.Writable
    · simp only [if_pos hWritable]
      exact ⟨rfl, hTable, rfl, hHost.note (by simp)⟩
    · simp only [if_neg hWritable]
      exact ⟨rfl, hTable, rfl, hHost⟩
  · simp only [if_neg hTracing]
    exact ⟨rfl, hTable, rfl, hHost⟩

/- So is an instruction completed. -/
theorem complete
    (hEchoes : r₁.Echoes script slot r₂)
    (o : Operation)
    (a : Action)
    (ps : List Parameter)
    (s : Signal) :
    Alike (Echoes script slot) (r₁.complete o ps s)
      (r₂.complete (o.withAction a) ps s) := by
  have hPointer :
      r₂.machine.pointer = r₁.machine.pointer := by
    rw [hEchoes.machine]
    rfl
  have hName : (o.withAction a).name = o.name := rfl
  unfold Rig.complete
  rw [hPointer, hName]
  rcases (hEchoes.counted.traced
      ⟨r₁.machine.pointer, o.name, ps, s⟩).parts with
    ⟨x, r₁', r₂', hFirst, hSecond, hTraced⟩
  rw [hFirst, hSecond]
  cases x with
  | error e => exact ⟨rfl, hTraced⟩
  | ok u =>
      dsimp only
      rcases (hTraced.apply s).parts with
        ⟨x, r₁'', r₂'', hFirst', hSecond', hApplied⟩
      rw [hFirst', hSecond']
      cases x with
      | error e => exact ⟨rfl, hApplied⟩
      | ok u => exact ⟨rfl, hApplied⟩

/-
  An attempt is answered alike, by the operation with the
  other action.
-/
theorem attempt
    (hEchoes : r₁.Echoes script slot r₂)
    (hWritable :
      Numeral.AllWritable
        (r₁.attempt.2.host.collected slot)) :
    ∃ r₁' r₂' : Rig, r₁'.Echoes script slot r₂' ∧
      ((∃ e, r₁.attempt = (.error e, r₁') ∧
          r₂.attempt = (.error e, r₂')) ∨
        ∃ (x : Answered) (a : Action),
          r₁.attempt = (.ok x, r₁') ∧
            r₂.attempt =
              (.ok
                ⟨x.operation.withAction a, x.parameters,
                  x.signal⟩, r₂')) := by
  have hSame := hEchoes
  rcases r₂ with ⟨m, h⟩
  rcases hEchoes with ⟨hTable, hMachine, hHost⟩
  dsimp only at hMachine hHost
  subst hMachine
  simp only [Rig.attempt, Machine.fetch_withActions,
    Machine.operands_withActions] at hWritable ⊢
  cases hFetch : r₁.machine.fetch with
  | error e => exact ⟨_, _, hSame, Or.inl ⟨e, rfl, rfl⟩⟩
  | ok f =>
      rcases f with ⟨o, i⟩
      simp only [hFetch, Except.map] at hWritable ⊢
      cases hOperands : r₁.machine.operands i with
      | error e => exact ⟨_, _, hSame, Or.inl ⟨e, rfl, rfl⟩⟩
      | ok ps =>
          simp only [hOperands] at hWritable ⊢
          have hEntry :=
            (Machine.fetch_eq_ok_iff.mp hFetch).entry
          rw [hTable] at hEntry
          have hFinal :
              Numeral.AllWritable
                ((o.execute ⟨i, ps⟩
                    ⟨r₁.machine.tape, r₁.host⟩).2.host.collected
                  slot) := by
            rcases hExecute :
                o.execute ⟨i, ps⟩
                  ⟨r₁.machine.tape, r₁.host⟩ with
              ⟨e | s, b⟩
            · rw [hExecute] at hWritable
              exact hWritable
            · rw [hExecute] at hWritable
              exact hWritable
          have hBenches :
              Action.Bench.Echoes slot
                ⟨r₁.machine.tape, r₁.host⟩
                ⟨r₁.machine.tape, h⟩ :=
            ⟨rfl, hHost⟩
          rcases (Operation.execute_echoes
              (Table.echoes_standard script slot hEntry)
              hBenches hFinal).parts with
            ⟨x, b₁, b₂, hFirst, hSecond, hTape, hLeft⟩
          rw [hFirst, show (r₁.machine.withActions _).tape =
            r₁.machine.tape from rfl, hSecond]
          have hAfter :
              (r₁.afterAction b₁).Echoes script slot
                (Rig.afterAction
                  ⟨r₁.machine.withActions
                    (Table.printing (.script script)), h⟩
                  b₂) :=
            ⟨hTable, by rw [Rig.afterAction, hTape]; rfl, hLeft⟩
          cases x with
          | error e =>
              exact ⟨_, _, hAfter, Or.inl ⟨e, rfl, rfl⟩⟩
          | ok s =>
              exact ⟨_, _, hAfter, Or.inr ⟨_, _, rfl, rfl⟩⟩

/- An instruction is done alike. -/
theorem dispatch
    (hEchoes : r₁.Echoes script slot r₂)
    (hWritable :
      Numeral.AllWritable
        (r₁.dispatch.2.host.collected slot)) :
    Alike (Echoes script slot) r₁.dispatch r₂.dispatch := by
  rw [Host.collected, dispatch_collectors] at hWritable
  rcases hEchoes.attempt hWritable with
    ⟨r₁', r₂', hLeft,
      ⟨e, hFirst, hSecond⟩ | ⟨x, a, hFirst, hSecond⟩⟩
  · rw [dispatch_eq_attempt, dispatch_eq_attempt, hFirst,
      hSecond]
    exact ⟨rfl, hLeft⟩
  · rw [dispatch_eq_attempt, dispatch_eq_attempt, hFirst,
      hSecond]
    exact hLeft.complete x.operation a x.parameters x.signal

/-
  The second machine runs as the first one does, if the
  integers that are collected in the end can be written.
-/
theorem run
    {budget : Nat}
    {x : Except Failure Unit}
    {r₁' : Rig}
    (hEchoes : r₁.Echoes script slot r₂)
    (hState : r₁.machine.state = .uninitialized)
    (hRun : r₁.run budget = some (x, r₁'))
    (hWritable :
      Numeral.AllWritable (r₁'.host.collected slot)) :
    ∃ r₂' : Rig,
      r₂.run budget = some (x, r₂') ∧
        r₁'.Echoes script slot r₂' := by
  have hGoesOn : r₁.machine.state ≠ .halted := by
    simp [hState]
  have hOther : r₂.machine.state = .uninitialized := by
    rw [← hEchoes.state, hState]
  have hEntered (r : Rig)
      (hFresh : r.machine.state = .uninitialized) :
      r.entered = r.enter .running ∧
        r.run budget = loop budget (r.enter .running) := by
    have hResumed : r.resumed = r := by
      rw [resumed, if_neg (by simp [hFresh])]
    rw [entered, Rig.run, if_neg (by simp [hFresh]), hResumed]
    exact ⟨rfl, rfl⟩
  rcases hEntered r₁ hState with ⟨hFirst, hLoop₁⟩
  rcases hEntered r₂ hOther with ⟨-, hLoop₂⟩
  have hLoops :
      Option.Rel (Alike (Echoes script slot))
        (loop budget (r₁.enter .running))
        (loop budget (r₂.enter .running)) := by
    refine
      loop_rel (fun s₁ s₂ h => h.state) budget
        (hEchoes.enter .running) fun n s₁ s₂ hReaches _ h => ?_
    rw [← hFirst] at hReaches
    have hPrefix :
        s₁.dispatch.2.host.collected slot <+:
          r₁'.host.collected slot :=
      collected_prefix_of_run hGoesOn hRun hReaches
    exact
      h.dispatch fun n hMember =>
        hWritable n (hPrefix.subset hMember)
  rw [← hLoop₁, ← hLoop₂, hRun] at hLoops
  rcases rel_cases hLoops with
    ⟨hNone, -⟩ | ⟨y, s, t, hSome, hSecond, hLeft⟩
  · simp at hNone
  · rw [Option.some.injEq, Prod.mk.injEq] at hSome
    rcases hSome with ⟨rfl, rfl⟩
    exact ⟨t, hSecond, hLeft⟩

end Echoes

end Rig

end IntcodeMachine
