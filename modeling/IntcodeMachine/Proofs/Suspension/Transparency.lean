import IntcodeMachine.Proofs.Semantics.Resumption
import IntcodeMachine.Proofs.Simulation.Scripted
import IntcodeMachine.Proofs.Suspension.Schedule

/-
  This file shows that a schedule comes to the same end as
  one run on a script of all that is fed.

  A machine on a queue that is not at its end is on the way
  of the scripted run: the steps that are left lead from its
  configuration, supplied with what is still to be fed, to
  the last configuration. Feeding and running keep it there
  until the machine halts or raises.

  Main declarations:
    * `Rig.queued`
    * `Play.Settles`
    * `Rig.run_cases`
    * `Rig.plays_of_steps`
    * `Rig.schedule_transparent`
-/

------------------------------------------------------------
-- Machines On A Queue
------------------------------------------------------------

namespace IntcodeMachine

open Semantics

namespace Rig

/-
  A machine at the start of a program, with its inputs from
  an empty queue and an empty collector that are new in the
  host. The other opcodes are those of the standard table.
-/
def queued
    (h : Host)
    (source : Source)
    (program : List Int) : Rig where
  machine :=
    .fresh ⟨program⟩
      ((Table.standard source
          (.collector h.collectors.length)).set
        Table.inputOpcode
        (.queuedInput h.queues.length Operation.inputName))
  host := (h.addQueue []).2.addCollector.2

theorem shows_queued
    (h : Host)
    (source : Source)
    (program : List Int) :
    (queued h source program).Shows
      (.queue h.queues.length) h.collectors.length
      (Config.initial program []) where
  table := Supplier.serves_queued _ _ source
  tracing := rfl
  tape := rfl
  pointer := rfl
  inputs := by
    simp [Supplier.Holds, queued, Host.addQueue,
      Host.addCollector, Config.initial]
  outputs := by
    simp [queued, Host.addQueue, Host.addCollector,
      Config.initial]

variable {queue collector : Nat}
variable {r : Rig} {c d : Config}

/- Feeding supplies the configuration. -/
theorem Shows.feed
    (hShows : r.Shows (.queue queue) collector d)
    (values : List Int) :
    (r.feed queue values).Shows (.queue queue) collector
      (d.supply values) := by
  have hQueue : r.host.queues[queue]? = some d.inputs :=
    hShows.inputs
  have hQueued : r.host.queued queue = d.inputs := by
    simp [Host.queued, List.getD_eq_getElem?_getD, hQueue]
  rcases List.getElem?_eq_some_iff.mp hQueue with ⟨hSlot, -⟩
  refine
    ⟨hShows.table, hShows.tracing, hShows.tape,
      hShows.pointer, ?_, hShows.outputs⟩
  show
    (r.host.queues.set queue
      (r.host.queued queue ++ values))[queue]? =
      some (d.inputs ++ values)
  rw [List.getElem?_set_self hSlot, hQueued]

/- Supplied inputs are not displayed. -/
theorem Displays.supply
    (hDisplays : r.Displays collector d)
    (more : List Int) :
    r.Displays collector (d.supply more) :=
  ⟨hDisplays.tape, hDisplays.pointer, hDisplays.outputs⟩

------------------------------------------------------------
-- One Run Of A Schedule
------------------------------------------------------------

/-
  What one run comes to, when so many steps lead from the
  supplied configuration to a last one: it halts or raises
  there, or it is suspended on the way.
-/
inductive RunsInto
    (queue collector : Nat)
    (r : Rig)
    (more : List Int)
    (n : Nat)
    (c : Config) : Prop where
| halts
    {r' : Rig}
    {e : Config}
    (hFinishes : r.Finishes (.ok ()) r')
    (hShows : r'.Shows (.queue queue) collector e)
    (hState : r'.machine.state = .halted)
    (hCount : r'.machine.steps = r.machine.steps + n + 1)
    (hLast : c = e.supply more)
    (hHalts : c.Halts)
| raises
    {r' : Rig}
    {f : Fault}
    (hFinishes : r.Finishes (.error f.raised) r')
    (hDisplays : r'.Displays collector c)
    (hFault : c.firstFault = some f)
    (hFed : ¬ f.Starves)
| suspends
    {r' : Rig}
    {e : Config}
    {i j : Nat}
    (hFinishes : r.Finishes (.ok ()) r')
    (hShows : r'.Shows (.queue queue) collector e)
    (hState : r'.machine.state = .suspended)
    (hCount : r'.machine.steps = r.machine.steps + i + 1)
    (hSize : e.memory.length ≤ Numeral.ceiling)
    (hStarving : e.Starving)
    (hSum : n = i + j)
    (hRest : Config.Steps j (e.supply more) c)

/- A run is suspended where it starves. -/
theorem runsInto_of_starving
    (hShows : r.Shows (.queue queue) collector d)
    (hState : r.machine.state ≠ .halted)
    (hSize : d.memory.length ≤ Numeral.ceiling)
    {more : List Int}
    {n i j : Nat}
    {e : Config}
    (hSum : n = i + j)
    (hSteps : Config.Steps i d e)
    (hStarving : e.Starving)
    (hRest : Config.Steps j (e.supply more) c) :
    RunsInto queue collector r more n c := by
  have hLength := hSteps.length_memory
  have hCounter := hStarving.decodes.counter
  have hWritable : Numeral.Writable e.pc := by
    show (e.pc : Int).natAbs < Numeral.ceiling
    omega
  rcases hShows.finishes_of_starving hState hSteps
      hStarving.decodes hStarving.empty hWritable with
    ⟨r', hFinishes, hShows', hSuspended, hCount⟩
  exact
    RunsInto.suspends hFinishes hShows' hSuspended hCount
      (by omega) hStarving hSum hRest

theorem runsInto_of_steps
    (hShows : r.Shows (.queue queue) collector d)
    (hState : r.machine.state ≠ .halted)
    (hSize : d.memory.length ≤ Numeral.ceiling)
    {more : List Int}
    {n : Nat}
    (hSteps : Config.Steps n (d.supply more) c)
    (hEnd : c.Halts ∨ ∃ f, c.firstFault = some f) :
    RunsInto queue collector r more n c := by
  rcases hSteps.split_supply with
    ⟨e, hReached, rfl⟩ |
      ⟨i, j, e, hSum, hReached, hStarving, hRest⟩
  · rcases hEnd with hHalts | ⟨f, hFault⟩
    · have hBefore : e.Halts :=
        (Config.decodes_supply_iff e more _).mp hHalts
      rcases hShows.finishes_of_halts hState hReached hBefore
        with ⟨r', hFinishes, hShows', hHalted, hCount⟩
      exact
        RunsInto.halts hFinishes hShows' hHalted hCount rfl
          hHalts
    · rcases Config.fault_of_supply hFault with
        hStarving | ⟨hFed, hBefore⟩
      · exact
          runsInto_of_starving hShows hState hSize
            (Nat.add_zero n).symm hReached hStarving
            (Config.Steps.here _)
      · rcases hShows.finishes_of_fault hState hReached
            hBefore (fun hStarves => absurd hStarves hFed)
          with ⟨r', hFinishes, hDisplays⟩
        exact
          RunsInto.raises hFinishes (hDisplays.supply more)
            hFault hFed
  · exact
      runsInto_of_starving hShows hState hSize hSum hReached
        hStarving hRest

------------------------------------------------------------
-- Whole Schedules
------------------------------------------------------------

/- What is left of a schedule when the machine has halted. -/
theorem plays_of_halted
    (turns : List Turn)
    (hShows : r.Shows (.queue queue) collector d)
    (hState : r.machine.state = .halted) :
    ∃ p, Plays queue turns r p ∧ p.outcome = .ok () ∧
      p.suspensions = 0 ∧
      p.rig.machine.state = .halted ∧
      p.rig.machine.steps = r.machine.steps ∧
      p.rig.Shows (.queue queue) collector
        (d.supply (Turn.fed turns)) := by
  induction turns generalizing r d with
  | nil =>
      refine
        ⟨_, plays_nil queue r, rfl, rfl, hState, rfl, ?_⟩
      rw [Turn.fed, Config.supply_nil]
      exact hShows
  | cons turn rest ih =>
      cases turn with
      | feed values =>
          rcases ih (hShows.feed values) hState with
            ⟨p, hPlays, hParts⟩
          refine ⟨p, plays_feed hPlays, ?_⟩
          rw [Config.supply_supply] at hParts
          exact hParts
      | run =>
          rcases finishes_of_halted hState with
            ⟨record, hFinishes⟩
          have hShows' :
              Shows (.queue queue) collector
                { r with host := r.host.note record } d :=
            ⟨hShows.table, hShows.tracing, hShows.tape,
              hShows.pointer, hShows.inputs, hShows.outputs⟩
          rcases ih hShows' hState with
            ⟨p, hPlays, hOk, hNone, hParts⟩
          refine
            ⟨_, plays_run hFinishes hPlays, hOk, ?_, hParts⟩
          simp [Play.after, hNone, hState]

end Rig

/-
  A play comes to the end that a last configuration says,
  after so many instructions and those that were suspended.
-/
structure Play.Settles
    (queue collector : Nat)
    (c : Config)
    (n : Nat)
    (p : Play) : Prop where
  halts :
    c.Halts →
      p.outcome = .ok () ∧
        p.rig.machine.state = .halted ∧
        p.rig.Shows (.queue queue) collector c ∧
        p.rig.machine.steps = n + 1 + p.suspensions
  starves :
    c.Starving →
      p.outcome = .ok () ∧
        p.rig.machine.state = .suspended ∧
        p.rig.Shows (.queue queue) collector c
  raises :
    ∀ f, c.firstFault = some f → ¬ f.Starves →
      p.outcome = .error f.raised ∧
        p.rig.Displays collector c

namespace Play

variable {queue collector n : Nat}
variable {c : Config} {p : Play}

theorem settles_of_halts
    (hHalts : c.Halts)
    (hOutcome : p.outcome = .ok ())
    (hState : p.rig.machine.state = .halted)
    (hShows : p.rig.Shows (.queue queue) collector c)
    (hCount :
      p.rig.machine.steps = n + 1 + p.suspensions) :
    p.Settles queue collector c n := by
  have hNone := hHalts.no_fault
  refine ⟨?_, ?_, ?_⟩
  · intro _
    exact ⟨hOutcome, hState, hShows, hCount⟩
  · intro hStarving
    rcases (Config.starving_iff c).mp hStarving with
      ⟨f, hFault, -⟩
    rw [hNone] at hFault
    simp at hFault
  · intro f hFault
    rw [hNone] at hFault
    simp at hFault

theorem settles_of_starving
    (hStarving : c.Starving)
    (hOutcome : p.outcome = .ok ())
    (hState : p.rig.machine.state = .suspended)
    (hShows : p.rig.Shows (.queue queue) collector c) :
    p.Settles queue collector c n := by
  rcases (Config.starving_iff c).mp hStarving with
    ⟨f, hFault, hStarves⟩
  refine ⟨?_, ?_, ?_⟩
  · intro hHalts
    rw [hHalts.no_fault] at hFault
    simp at hFault
  · intro _
    exact ⟨hOutcome, hState, hShows⟩
  · intro g hOther hFed
    rw [hFault, Option.some.injEq] at hOther
    subst hOther
    exact absurd hStarves hFed

theorem settles_of_fault
    {f : Fault}
    (hFault : c.firstFault = some f)
    (hFed : ¬ f.Starves)
    (hOutcome : p.outcome = .error f.raised)
    (hDisplays : p.rig.Displays collector c) :
    p.Settles queue collector c n := by
  refine ⟨?_, ?_, ?_⟩
  · intro hHalts
    rw [hHalts.no_fault] at hFault
    simp at hFault
  · intro hStarving
    rcases (Config.starving_iff c).mp hStarving with
      ⟨g, hOther, hStarves⟩
    rw [hFault, Option.some.injEq] at hOther
    subst hOther
    exact absurd hStarves hFed
  · intro g hOther _
    rw [hFault, Option.some.injEq] at hOther
    subst hOther
    exact ⟨hOutcome, hDisplays⟩

/- A suspension before the play is counted. -/
theorem Settles.after_suspended
    (hSettles : p.Settles queue collector c (n + 1)) :
    (p.after .suspended).Settles queue collector c n := by
  refine ⟨?_, hSettles.starves, hSettles.raises⟩
  intro hHalts
  rcases hSettles.halts hHalts with
    ⟨hOutcome, hState, hShows, hCount⟩
  refine ⟨hOutcome, hState, hShows, ?_⟩
  simp only [after]
  rw [hCount]
  simp only [reduceIte]
  omega

end Play

namespace Rig

variable {queue collector : Nat}
variable {r : Rig} {c d : Config}

/-
  A run and what follows settle, if what follows does after
  a run that is suspended.
-/
theorem plays_of_runsInto
    (rest : List Turn)
    {n : Nat}
    (hInto :
      RunsInto queue collector r (Turn.fed rest) n c)
    (hGoesOn :
      ∀ r' e j,
        r'.Shows (.queue queue) collector e →
        r'.machine.state = .suspended →
        e.memory.length ≤ Numeral.ceiling →
        e.Starving →
        Config.Steps j (e.supply (Turn.fed rest)) c →
        ∃ p, Plays queue rest r' p ∧
          p.Settles queue collector c
            (r'.machine.steps + j)) :
    ∃ p, Plays queue (.run :: rest) r p ∧
      p.Settles queue collector c
        (r.machine.steps + n) := by
  cases hInto with
  | halts hFinishes hShows hState hCount hLast hHalts =>
      rcases plays_of_halted rest hShows hState with
        ⟨p, hPlays, hOk, hNone, hHalted, hSteps, hShows'⟩
      rw [← hLast] at hShows'
      refine
        ⟨_, plays_run hFinishes hPlays,
          Play.settles_of_halts hHalts hOk hHalted hShows' ?_⟩
      simp only [Play.after, hState, hNone, hSteps, hCount]
      rfl
  | raises hFinishes hDisplays hFault hFed =>
      exact
        ⟨_, plays_raise hFinishes rest,
          Play.settles_of_fault hFault hFed rfl hDisplays⟩
  | suspends hFinishes hShows hState hCount hSize hStarving
      hSum hRest =>
      rename_i r' e i j
      rcases hGoesOn r' e j hShows hState hSize hStarving
          hRest with
        ⟨p, hPlays, hSettles⟩
      have hBefore :
          r'.machine.steps + j = r.machine.steps + n + 1 := by
        omega
      rw [hBefore] at hSettles
      refine ⟨_, plays_run hFinishes hPlays, ?_⟩
      rw [hState]
      exact hSettles.after_suspended

/- A schedule with a last run settles as the steps say. -/
theorem plays_of_steps
    (turns : List Turn)
    (hShows : r.Shows (.queue queue) collector d)
    (hState : r.machine.state ≠ .halted)
    (hSize : d.memory.length ≤ Numeral.ceiling)
    {n : Nat}
    (hSteps :
      Config.Steps n (d.supply (Turn.fed turns)) c)
    (hEnd : c.Halts ∨ ∃ f, c.firstFault = some f) :
    ∃ p, Plays queue (turns ++ [.run]) r p ∧
      p.Settles queue collector c (r.machine.steps + n) := by
  induction turns generalizing r d n with
  | nil =>
      refine
        plays_of_runsInto []
          (runsInto_of_steps hShows hState hSize hSteps hEnd)
          ?_
      intro r' e j hShows' hSuspended _ hStarving hRest
      -- Nothing is fed any more, so this is the end.
      rw [Turn.fed, Config.supply_nil] at hRest
      rcases hStarving.eq_of_steps hRest with ⟨-, rfl⟩
      exact
        ⟨_, plays_nil queue r',
          Play.settles_of_starving hStarving rfl hSuspended
            hShows'⟩
  | cons turn rest ih =>
      cases turn with
      | feed values =>
          rw [Turn.fed, ← Config.supply_supply] at hSteps
          rcases ih (hShows.feed values) hState hSize hSteps
            with ⟨p, hPlays, hSettles⟩
          exact ⟨p, plays_feed hPlays, hSettles⟩
      | run =>
          have hInto :=
            runsInto_of_steps hShows hState hSize hSteps hEnd
          rw [Turn.fed, ← Turn.fed_append_run] at hInto
          refine
            plays_of_runsInto (rest ++ [.run]) hInto ?_
          intro r' e j hShows' hSuspended hSize' _ hRest
          rw [Turn.fed_append_run] at hRest
          exact
            ih hShows' (by rw [hSuspended]; decide) hSize'
              hRest

------------------------------------------------------------
-- Schedules And Scripts
------------------------------------------------------------

end Rig

/- The play ends with tape, counter and outputs of a rig. -/
structure Play.Mirrors
    (collector : Nat)
    (p : Play)
    (r : Rig) : Prop where
  tape : p.rig.machine.tape = r.machine.tape
  pointer : p.rig.machine.pointer = r.machine.pointer
  outputs :
    p.rig.host.collected collector =
      r.host.collected collector

theorem Play.mirrors_of_displays
    {collector : Nat}
    {c : Config}
    {p : Play}
    {r : Rig}
    (hPlay : p.rig.Displays collector c)
    (hRig : r.Displays collector c) :
    p.Mirrors collector r where
  tape := hPlay.tape.trans hRig.tape.symm
  pointer := hPlay.pointer.trans hRig.pointer.symm
  outputs := by
    simp only [Host.collected, List.getD_eq_getElem?_getD,
      hPlay.outputs, hRig.outputs]

namespace Rig

variable (h : Host) (source : Source) (program : List Int)

/- A schedule settles as the rules say for all that is fed. -/
theorem queued_settles
    (hAddressable : program.length ≤ Numeral.ceiling)
    (turns : List Turn)
    {n : Nat}
    {c : Config}
    (hSteps :
      Config.Steps n (.initial program (Turn.fed turns)) c)
    (hEnd : c.Halts ∨ ∃ f, c.firstFault = some f) :
    ∃ p,
      Plays h.queues.length (turns ++ [.run])
        (queued h source program) p ∧
        p.Settles h.queues.length h.collectors.length c
          n := by
  have hSettles :=
    plays_of_steps turns (shows_queued h source program)
      (by simp [queued, Machine.fresh]) hAddressable
      (show
        Config.Steps n
          ((Config.initial program []).supply
            (Turn.fed turns)) c
        from hSteps)
      hEnd
  rw [show (queued h source program).machine.steps = 0
    from rfl, Nat.zero_add] at hSettles
  exact hSettles

section

variable {h program}
variable {turns : List Turn} {r : Rig}

/- A schedule halts where the script does. -/
theorem queued_halts
    (hAddressable : program.length ≤ Numeral.ceiling)
    (hFinishes :
      (scripted h program (Turn.fed turns)).Finishes
        (.ok ()) r) :
    ∃ p,
      Plays h.queues.length (turns ++ [.run])
        (queued h source program) p ∧
      p.outcome = .ok () ∧
      p.rig.machine.state = .halted ∧
      p.Mirrors h.collectors.length r ∧
      p.rig.host.queued h.queues.length =
        (r.host.script h.scripts.length).remaining ∧
      p.rig.machine.steps =
        r.machine.steps + p.suspensions := by
  rcases scripted_halts h program _ hFinishes with
    ⟨n, c, hSteps, hHalts, hAs⟩
  rcases queued_settles h source program hAddressable turns
      hSteps (Or.inl hHalts) with
    ⟨p, hPlays, hSettles⟩
  rcases hSettles.halts hHalts with
    ⟨hOk, hHalted, hShows, hCount⟩
  have hQueue :
      p.rig.host.queues[h.queues.length]? = some c.inputs :=
    hShows.inputs
  have hMirrors : p.Mirrors h.collectors.length r :=
    Play.mirrors_of_displays hShows.displays
      ⟨hAs.tape, hAs.pointer, hAs.outputs⟩
  refine ⟨p, hPlays, hOk, hHalted, hMirrors, ?_, ?_⟩
  · simp only [Host.queued, Host.script,
      List.getD_eq_getElem?_getD, hQueue, hAs.inputs,
      Option.getD_some]
  · rw [hCount, hAs.steps]

/- A schedule is left suspended where the script runs out. -/
theorem queued_starves
    (hAddressable : program.length ≤ Numeral.ceiling)
    {consumed : Nat}
    (hFinishes :
      (scripted h program (Turn.fed turns)).Finishes
        (.error (.fault (.inputExhausted consumed))) r) :
    ∃ p,
      Plays h.queues.length (turns ++ [.run])
        (queued h source program) p ∧
      p.outcome = .ok () ∧
      p.rig.machine.state = .suspended ∧
      p.Mirrors h.collectors.length r ∧
      p.rig.host.queued h.queues.length = [] := by
  rcases scripted_raises h program _ hFinishes with
    ⟨n, c, f, hSteps, hFault, hRaised, hDisplays⟩
  have hStarving : c.Starving :=
    (Config.starving_iff c).mpr
      ⟨f, hFault, Fault.starves_of_raised hRaised.symm⟩
  rcases queued_settles h source program hAddressable turns
      hSteps (Or.inr ⟨f, hFault⟩) with
    ⟨p, hPlays, hSettles⟩
  rcases hSettles.starves hStarving with
    ⟨hOk, hSuspended, hShows⟩
  have hQueue :
      p.rig.host.queues[h.queues.length]? = some c.inputs :=
    hShows.inputs
  have hMirrors : p.Mirrors h.collectors.length r :=
    Play.mirrors_of_displays hShows.displays hDisplays
  refine ⟨p, hPlays, hOk, hSuspended, hMirrors, ?_⟩
  simp only [Host.queued, List.getD_eq_getElem?_getD, hQueue,
    hStarving.empty, Option.getD_some]

/- A schedule raises what else the script raises. -/
theorem queued_raises
    (hAddressable : program.length ≤ Numeral.ceiling)
    {e : Failure}
    (hFinishes :
      (scripted h program (Turn.fed turns)).Finishes
        (.error e) r)
    (hOther :
      ∀ consumed, e ≠ .fault (.inputExhausted consumed)) :
    ∃ p,
      Plays h.queues.length (turns ++ [.run])
        (queued h source program) p ∧
      p.outcome = .error e ∧
      p.Mirrors h.collectors.length r := by
  rcases scripted_raises h program _ hFinishes with
    ⟨n, c, f, hSteps, hFault, rfl, hDisplays⟩
  have hFed : ¬ f.Starves := by
    intro hStarves
    rcases hStarves.raised with ⟨m, hRaised⟩
    exact hOther m hRaised
  rcases queued_settles h source program hAddressable turns
      hSteps (Or.inr ⟨f, hFault⟩) with
    ⟨p, hPlays, hSettles⟩
  rcases hSettles.raises f hFault hFed with
    ⟨hError, hPlayed⟩
  exact
    ⟨p, hPlays, hError,
      Play.mirrors_of_displays hPlayed hDisplays⟩

end

/-
  A schedule that ends with a run comes to what one run on a
  script of all that is fed comes to. The hypothesis is that
  the address of every cell can be written, as it can be of
  any list that a computer holds.
-/
theorem schedule_transparent
    (hAddressable : program.length ≤ Numeral.ceiling)
    (turns : List Turn) :
    (∀ r,
      (scripted h program (Turn.fed turns)).Finishes
        (.ok ()) r →
      ∃ p,
        Plays h.queues.length (turns ++ [.run])
          (queued h source program) p ∧
        p.outcome = .ok () ∧
        p.rig.machine.state = .halted ∧
        p.Mirrors h.collectors.length r ∧
        p.rig.host.queued h.queues.length =
          (r.host.script h.scripts.length).remaining ∧
        p.rig.machine.steps =
          r.machine.steps + p.suspensions) ∧
    (∀ consumed r,
      (scripted h program (Turn.fed turns)).Finishes
        (.error (.fault (.inputExhausted consumed))) r →
      ∃ p,
        Plays h.queues.length (turns ++ [.run])
          (queued h source program) p ∧
        p.outcome = .ok () ∧
        p.rig.machine.state = .suspended ∧
        p.Mirrors h.collectors.length r ∧
        p.rig.host.queued h.queues.length = []) ∧
    (∀ e r,
      (scripted h program (Turn.fed turns)).Finishes
        (.error e) r →
      (∀ consumed,
        e ≠ .fault (.inputExhausted consumed)) →
      ∃ p,
        Plays h.queues.length (turns ++ [.run])
          (queued h source program) p ∧
        p.outcome = .error e ∧
        p.Mirrors h.collectors.length r) := by
  refine ⟨?_, ?_, ?_⟩
  · intro r hFinishes
    exact queued_halts source hAddressable hFinishes
  · intro consumed r hFinishes
    exact queued_starves source hAddressable hFinishes
  · intro e r hFinishes hOther
    exact queued_raises source hAddressable hFinishes hOther

/- A fruitless run, an integer, and a run that takes it. -/
theorem echo_transparent :
    [3, 0, 99].length ≤ Numeral.ceiling ∧
      ∃ r p,
        (scripted (.fresh []) [3, 0, 99] [7]).Finishes
          (.ok ()) r ∧
        Plays 0 [.run, .feed [7], .run]
          (queued (.fresh []) .standard [3, 0, 99]) p ∧
        p.outcome = .ok () ∧
        p.rig.machine.state = .halted ∧
        p.Mirrors 0 r ∧
        p.rig.host.queued 0 = (r.host.script 0).remaining ∧
        p.rig.machine.steps =
          r.machine.steps + p.suspensions := by
  have hAddressable :
      [3, 0, 99].length ≤ Numeral.ceiling :=
    Nat.le_of_lt
      (Numeral.lt_ceiling_of_lt_ten (by decide))
  have hFinishes :
      ∃ r,
        (scripted (.fresh []) [3, 0, 99] [7]).Finishes
          (.ok ()) r :=
    ⟨_, 2, rfl⟩
  rcases hFinishes with ⟨r, hFinishes⟩
  rcases (schedule_transparent (.fresh []) .standard
      [3, 0, 99] hAddressable [.run, .feed [7]]).1 r
      hFinishes with
    ⟨p, hPlays, hParts⟩
  exact ⟨hAddressable, r, p, hFinishes, hPlays, hParts⟩

end Rig

end IntcodeMachine
