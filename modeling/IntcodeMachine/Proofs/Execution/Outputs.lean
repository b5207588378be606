import IntcodeMachine.Proofs.Execution.Requests
import IntcodeMachine.Proofs.Execution.Runs

/-
  This file proves that no output is ever taken back.

  What a collector holds before an action, it holds in front
  of everything that it holds after the action, whatever the
  action does and whether it fails. So it is with the
  instructions of a run.

  Main declarations:
    * `Action.collected_prefix_run`
    * `Rig.collected_prefix_dispatch`
    * `Rig.collected_prefix_of_reaches`
    * `Rig.collected_prefix_of_run`
    * `Rig.collected_prefix_of_finishes`
-/

------------------------------------------------------------
-- Channels
------------------------------------------------------------

namespace IntcodeMachine

namespace Host

/- Taking an integer from a source leaves the collectors. -/
theorem receive_collectors
    (h : Host)
    (source : Source) :
    (h.receive source).2.collectors = h.collectors := by
  cases source with
  | constant n => rfl
  | script k =>
      rw [receive, receiveScripted]
      split
      · rfl
      · rfl
  | console prompt supply =>
      cases supply with
      | feed k =>
          rw [receive, receiveFed]
          split
          · rfl
          · rfl
      | keyboard =>
          rw [receive, receiveTyped]
          split
          · rfl
          · rfl

/- An integer given to a collector is put behind the others. -/
theorem emit_collector
    (h : Host)
    (n : Int)
    (slot : Nat) :
    h.emit n (.collector slot) =
      (.ok (),
        { h with
          collectors :=
            h.collectors.set slot (h.collected slot ++ [n]) }) :=
  rfl

theorem collected_emit
    {h : Host}
    {slot : Nat}
    (hInside : slot < h.collectors.length)
    (n : Int) :
    (h.emit n (.collector slot)).2.collected slot =
      h.collected slot ++ [n] := by
  rw [emit_collector]
  simp [collected, hInside]

/- Giving an integer to a sink adds it, or leaves them. -/
theorem collected_prefix_emit
    (h : Host)
    (n : Int)
    (sink : Sink)
    (slot : Nat) :
    h.collected slot <+: (h.emit n sink).2.collected slot := by
  cases sink with
  | collector k =>
      by_cases hSlot : k = slot
      · subst hSlot
        by_cases hInside : k < h.collectors.length
        · rw [collected_emit hInside]
          exact List.prefix_append _ _
        · simp only [emit_collector,
            List.set_eq_of_length_le (Nat.le_of_not_lt hInside)]
          exact List.prefix_refl _
      · rw [emit_collector]
        simp [collected, hSlot]
  | console preface target =>
      unfold emit
      dsimp only
      cases Numeral.written n with
      | error e => exact List.prefix_refl _
      | ok numeral =>
          cases target <;> exact List.prefix_refl _

end Host

------------------------------------------------------------
-- Actions
------------------------------------------------------------

namespace Action

variable {site : Site} {a a' : Action} {b b' : Bench}
variable {ws : List (Int × Int)}

/- A request only adds to what is collected. -/
theorem Proceeds.collected_grows
    (hProceeds : Proceeds site a b ws a' b')
    (slot : Nat) :
    b.host.collected slot <+: b'.host.collected slot := by
  cases hProceeds with
  | receive =>
      simp only [Bench.withHost, Host.collected,
        Host.receive_collectors]
      exact List.prefix_refl _
  | emit => exact b.host.collected_prefix_emit _ _ slot
  | take =>
      rename_i queue next
      rw [Bench.withHost, Host.take]
      split
      · exact List.prefix_refl _
      · exact List.prefix_refl _
  | _ => exact List.prefix_refl _

theorem Goes.collected_grows
    (hGoes : Goes site a b ws a' b')
    (slot : Nat) :
    b.host.collected slot <+: b'.host.collected slot := by
  induction hGoes with
  | here a b => exact List.prefix_refl _
  | next hProceeds hRest ih =>
      exact (hProceeds.collected_grows slot).trans ih

/- An action only adds to what is collected. -/
theorem collected_prefix_run
    (site : Site)
    (a : Action)
    (b : Bench)
    (slot : Nat) :
    b.host.collected slot <+:
      (a.run site b).2.host.collected slot := by
  rcases a.settles site b with ⟨ws, a', b', hGoes, hFinal⟩
  rw [hGoes.run_eq, hFinal.run_bench]
  exact hGoes.collected_grows slot

end Action

/- Neither does executing an operation take anything back. -/
theorem Operation.collected_prefix_execute
    (o : Operation)
    (site : Action.Site)
    (b : Action.Bench)
    (slot : Nat) :
    b.host.collected slot <+:
      (o.execute site b).2.host.collected slot := by
  have hAdds := o.action.collected_prefix_run site b slot
  unfold execute
  split
  · rcases hRun : o.action.run site b with ⟨e | r, b'⟩
    · rw [hRun] at hAdds
      exact hAdds
    · rw [hRun] at hAdds
      exact hAdds
  · exact List.prefix_refl _

------------------------------------------------------------
-- Instructions
------------------------------------------------------------

namespace Rig

variable {r r' : Rig} {slot : Nat}

theorem collected_prefix_attempt
    (r : Rig)
    (slot : Nat) :
    r.host.collected slot <+:
      r.attempt.2.host.collected slot := by
  unfold attempt
  rcases r.machine.fetch with e | ⟨o, i⟩
  · exact List.prefix_refl _
  · dsimp only
    rcases r.machine.operands i with e | ps
    · exact List.prefix_refl _
    · dsimp only
      have hAdds :=
        o.collected_prefix_execute ⟨i, ps⟩
          ⟨r.machine.tape, r.host⟩ slot
      rcases hExecute :
          o.execute ⟨i, ps⟩ ⟨r.machine.tape, r.host⟩ with
        ⟨x, b⟩
      rw [hExecute] at hAdds
      cases x <;> exact hAdds

/- Applying a signal leaves the collectors alone. -/
theorem apply_collectors
    (r : Rig)
    (s : Signal) :
    (r.apply s).2.host.collectors = r.host.collectors := by
  cases s with
  | jump address =>
      rw [apply]
      split
      · rfl
      · rfl
  | advance length => rfl
  | halt => rfl
  | suspend => rfl
  | unknown => rfl

/- So does tracing an instruction. -/
theorem traced_collectors
    (r : Rig)
    (l : Trace.Line) :
    (r.traced l).2.host.collectors = r.host.collectors := by
  unfold traced
  split
  · split
    · rfl
    · rfl
  · rfl

/- So does all that follows an attempt. -/
theorem dispatch_collectors
    (r : Rig) :
    r.dispatch.2.host.collectors =
      r.attempt.2.host.collectors := by
  rw [dispatch_eq_attempt]
  rcases r.attempt with ⟨e | x, r₁⟩
  · rfl
  · have hTraced :=
      r₁.counted.traced_collectors
        ⟨r₁.machine.pointer, x.operation.name, x.parameters,
          x.signal⟩
    dsimp only [complete]
    rcases hLine :
        r₁.counted.traced
          ⟨r₁.machine.pointer, x.operation.name, x.parameters,
            x.signal⟩ with
      ⟨e | u, r₂⟩
    · rw [hLine] at hTraced
      exact hTraced
    · rw [hLine] at hTraced
      have hApplied :=
        (r₂.apply_collectors x.signal).trans hTraced
      dsimp only
      rcases hApply : r₂.apply x.signal with ⟨e | u, r₃⟩
      · rw [hApply] at hApplied
        exact hApplied
      · rw [hApply] at hApplied
        exact hApplied

/- An instruction only adds to what is collected. -/
theorem collected_prefix_dispatch
    (r : Rig)
    (slot : Nat) :
    r.host.collected slot <+:
      r.dispatch.2.host.collected slot := by
  rw [Host.collected, Host.collected, dispatch_collectors]
  exact r.collected_prefix_attempt slot

------------------------------------------------------------
-- Runs
------------------------------------------------------------

/- What was collected stays, whatever is reached later. -/
theorem collected_prefix_of_reaches
    {n : Nat}
    (hReaches : Reaches n r r') :
    r.host.collected slot <+: r'.host.collected slot := by
  induction hReaches with
  | here r => exact List.prefix_refl _
  | next hDispatch hGoesOn hRest ih =>
      rename_i n r r₁ r' s
      have hAdds := r.collected_prefix_dispatch slot
      rw [hDispatch] at hAdds
      exact hAdds.trans ih

/- The last instruction of a run leaves what the run leaves. -/
theorem dispatch_of_ends
    {x : Except Failure Unit}
    (hEnds : r.Ends x r') :
    r.dispatch.2 = r' := by
  cases x with
  | error e => rw [show r.dispatch = (.error e, r') from hEnds]
  | ok u =>
      rcases hEnds with ⟨s, hDispatch, -⟩
      rw [hDispatch]

/-
  At the end of a run, everything is there that any of its
  instructions has left.
-/
theorem collected_prefix_of_run
    {n budget : Nat}
    {s : Rig}
    {x : Except Failure Unit}
    (hState : r.machine.state ≠ .halted)
    (hRun : r.run budget = some (x, r'))
    (hReaches : Reaches n r.entered s) :
    s.dispatch.2.host.collected slot <+:
      r'.host.collected slot := by
  rcases (finishes_iff_reaches hState).mp ⟨budget, hRun⟩ with
    ⟨m, r₀, hWhole, hEnds⟩
  rcases hReaches.split hWhole hEnds with ⟨k, hRest⟩
  cases hRest with
  | here =>
      simp only [dispatch_of_ends hEnds]
      exact List.prefix_refl _
  | next hDispatch hGoesOn hRest =>
      have hLast := r₀.collected_prefix_dispatch slot
      rw [dispatch_of_ends hEnds] at hLast
      rw [hDispatch]
      exact (collected_prefix_of_reaches hRest).trans hLast

/- So is what was there when the run was started. -/
theorem collected_prefix_of_finishes
    {x : Except Failure Unit}
    (hState : r.machine.state ≠ .halted)
    (hFinishes : r.Finishes x r') :
    r.host.collected slot <+: r'.host.collected slot := by
  have hEntered :
      r.entered.host.collected slot =
        r.host.collected slot := by
    unfold entered resumed
    split
    · rfl
    · rfl
  rcases hFinishes with ⟨budget, hRun⟩
  have hFirst := r.entered.collected_prefix_dispatch slot
  rw [hEntered] at hFirst
  exact
    hFirst.trans
      (collected_prefix_of_run hState hRun (Reaches.here _))

end Rig

end IntcodeMachine
