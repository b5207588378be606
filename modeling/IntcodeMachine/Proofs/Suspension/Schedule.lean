import IntcodeMachine.Proofs.Execution.Runs

/-
  This file defines schedules: what a host does with a
  machine that takes its inputs from a queue.

  The host feeds integers to the queue and runs the machine,
  in any order and as often as it likes. Playing a schedule
  ends at the first run that raises. Each run that ends with
  the machine suspended was given one signal to suspend.

  Main declarations:
    * `Turn`
    * `Rig.play`
    * `Rig.Plays`
    * `Rig.Plays.unique`
-/

------------------------------------------------------------
-- Schedules
------------------------------------------------------------

namespace IntcodeMachine

/- What a host does next. -/
inductive Turn where
| feed (values : List Int)
| run
deriving DecidableEq, Repr

/- All that is fed, in order. -/
def Turn.fed : List Turn → List Int
| [] => []
| .feed values :: rest => values ++ fed rest
| .run :: rest => fed rest

@[simp] theorem Turn.fed_append_run
    (turns : List Turn) :
    fed (turns ++ [.run]) = fed turns := by
  induction turns with
  | nil => rfl
  | cons turn rest ih =>
      cases turn with
      | feed values => simp [fed, ih]
      | run => simp [fed, ih]

/- How a schedule was played, and what it came to. -/
structure Play where
  outcome : Except Failure Unit
  /- How many signals to suspend were given. -/
  suspensions : Nat
  rig : Rig

/- The play when a run before it has ended in a state. -/
def Play.after
    (s : RunState)
    (p : Play) : Play :=
  { p with
    suspensions :=
      p.suspensions + if s = .suspended then 1 else 0 }

namespace Rig

/- Feed integers to a queue. -/
def feed
    (r : Rig)
    (queue : Nat)
    (values : List Int) : Rig :=
  { r with host := r.host.append queue values }

/- Play a schedule, with a budget for each run. -/
def play
    (budget queue : Nat) :
    List Turn → Rig → Option Play
| [], r => some ⟨.ok (), 0, r⟩
| .feed values :: rest, r =>
    play budget queue rest (r.feed queue values)
| .run :: rest, r =>
    match r.run budget with
    | none => none
    | some (.error e, r') => some ⟨.error e, 0, r'⟩
    | some (.ok _, r') =>
        (play budget queue rest r').map
          (Play.after r'.machine.state)

/- With enough budget, the schedule is played like this. -/
def Plays
    (queue : Nat)
    (turns : List Turn)
    (r : Rig)
    (p : Play) : Prop :=
  ∃ enough, ∀ budget, enough ≤ budget →
    r.play budget queue turns = some p

------------------------------------------------------------
-- Playing
------------------------------------------------------------

variable {queue : Nat} {rest : List Turn}
variable {r r' : Rig} {p : Play}

theorem plays_nil
    (queue : Nat)
    (r : Rig) :
    Plays queue [] r ⟨.ok (), 0, r⟩ :=
  ⟨0, fun _ _ => rfl⟩

theorem plays_feed
    {values : List Int}
    (hRest : Plays queue rest (r.feed queue values) p) :
    Plays queue (.feed values :: rest) r p :=
  hRest

/- Every budget from some on lets a run come to its end. -/
theorem Finishes.eventually
    {o : Except Failure Unit}
    (hFinishes : r.Finishes o r') :
    ∃ enough, ∀ budget, enough ≤ budget →
      r.run budget = some (o, r') := by
  rcases hFinishes with ⟨enough, hRun⟩
  exact ⟨enough, fun budget hLe => run_mono hRun hLe⟩

theorem plays_run
    (hFinishes : r.Finishes (.ok ()) r')
    (hRest : Plays queue rest r' p) :
    Plays queue (.run :: rest) r
      (p.after r'.machine.state) := by
  rcases hFinishes.eventually with ⟨m, hRun⟩
  rcases hRest with ⟨n, hPlay⟩
  refine ⟨max m n, fun budget hLe => ?_⟩
  have hFirst := hRun budget (by omega)
  have hSecond := hPlay budget (by omega)
  simp only [play, hFirst, hSecond, Option.map_some]

theorem plays_raise
    {e : Failure}
    (hFinishes : r.Finishes (.error e) r')
    (rest : List Turn) :
    Plays queue (.run :: rest) r ⟨.error e, 0, r'⟩ := by
  rcases hFinishes.eventually with ⟨m, hRun⟩
  refine ⟨m, fun budget hLe => ?_⟩
  simp only [play, hRun budget hLe]

/- A schedule is played in one way only. -/
theorem Plays.unique
    {turns : List Turn}
    {p₁ p₂ : Play}
    (hFirst : Plays queue turns r p₁)
    (hSecond : Plays queue turns r p₂) :
    p₁ = p₂ := by
  rcases hFirst with ⟨m, hFirst⟩
  rcases hSecond with ⟨n, hSecond⟩
  have hMax := hFirst (max m n) (by omega)
  rw [hSecond (max m n) (by omega)] at hMax
  exact (Option.some.inj hMax).symm

/- A run of a machine that has halted only writes to the log. -/
theorem finishes_of_halted
    (hState : r.machine.state = .halted) :
    ∃ record,
      r.Finishes (.ok ())
        { r with host := r.host.note record } :=
  ⟨_, 0, if_pos hState⟩

end Rig

end IntcodeMachine
