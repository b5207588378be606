import IntcodeMachine.Operation

/-
  This file follows an action from request to request.

  When a request is answered, an action proceeds to another
  one. What it writes by that is recorded, with its address.
  All effects of an action on the tape are such writes, and
  each of them lands on the tape. What the action does is
  what the action it goes on to does.

  A request that fails is answered too. The usual requests
  fail with their answer.

  Main declarations:
    * `Tape.overwrite`
    * `Action.run_valueOf`, `Action.run_writeTo`
    * `Action.run_receiveFrom`, `Action.run_emitTo`
    * `Action.Proceeds`
    * `Action.Goes`
    * `Action.Goes.run_eq`
    * `Action.settles`
    * `Action.run_overwrites`
    * `Operation.size_execute`
-/

------------------------------------------------------------
-- Written Words
------------------------------------------------------------

namespace IntcodeMachine

namespace Tape

/- The tape after words were written to addresses, in order. -/
def overwrite : Tape → List (Int × Int) → Tape
| t, [] => t
| t, (address, word) :: rest =>
    overwrite ⟨t.cells.set address.toNat word⟩ rest

theorem size_overwrite
    (t : Tape)
    (ws : List (Int × Int)) :
    (t.overwrite ws).size = t.size := by
  induction ws generalizing t with
  | nil => rfl
  | cons w rest ih =>
      rw [overwrite, ih]
      exact List.length_set

theorem overwrite_append
    (t : Tape)
    (ws ws' : List (Int × Int)) :
    t.overwrite (ws ++ ws') =
      (t.overwrite ws).overwrite ws' := by
  induction ws generalizing t with
  | nil => rfl
  | cons w rest ih => exact ih _

/- A cell changes only if its address is written to. -/
theorem mem_of_overwrite_ne
    {t : Tape}
    {ws : List (Int × Int)}
    {k : Nat}
    (hPlaces : ∀ w ∈ ws, t.Contains w.1)
    (hChanged : (t.overwrite ws).cells[k]? ≠ t.cells[k]?) :
    ∃ w ∈ ws, w.1 = k := by
  induction ws generalizing t with
  | nil => exact absurd rfl hChanged
  | cons w rest ih =>
      rcases List.forall_mem_cons.mp hPlaces with
        ⟨hFirst, hRest⟩
      by_cases hHere : w.1 = k
      · exact ⟨w, List.mem_cons_self, hHere⟩
      · have hOther : w.1.toNat ≠ k := by
          have hLow := hFirst.1
          omega
        have hKept :
            (t.cells.set w.1.toNat w.2)[k]? = t.cells[k]? :=
          List.getElem?_set_ne hOther
        have hSame :
            ∀ v ∈ rest,
              (Tape.mk (t.cells.set w.1.toNat w.2)).Contains
                v.1 := by
          intro v hMember
          rw [Contains, size, List.length_set]
          exact hRest v hMember
        rw [← hKept] at hChanged
        rcases ih hSame hChanged with ⟨v, hMember, hAddress⟩
        exact ⟨v, List.mem_cons_of_mem w hMember, hAddress⟩

end Tape

namespace Action

------------------------------------------------------------
-- Usual Requests
------------------------------------------------------------

section

variable (site : Site) (b : Bench)

theorem run_orFail
    {α : Type}
    (next : α → Action)
    (x : Except Failure α) :
    run site (orFail next x) b =
      match x with
      | .error e => (.error e, b)
      | .ok y => run site (next y) b := by
  cases x with
  | error e => rfl
  | ok y => rfl

theorem run_parameter
    (slot : Nat)
    (next : Parameter → Action) :
    run site (parameter slot next) b =
      match site.parameters[slot]? with
      | none => (.error .noParameter, b)
      | some p => run site (next p) b := by
  rw [parameter, run]
  cases site.parameters[slot]? with
  | none => rfl
  | some p => rfl

theorem run_valueOf
    (slot : Nat)
    (next : Int → Action) :
    run site (valueOf slot next) b =
      match site.parameters[slot]? with
      | none => (.error .noParameter, b)
      | some p =>
          match operand b.tape p with
          | .error e => (.error e, b)
          | .ok n => run site (next n) b := by
  rw [valueOf, run_parameter]
  cases site.parameters[slot]? with
  | none => rfl
  | some p =>
      dsimp only
      rw [run, run_orFail]
      cases operand b.tape p with
      | error e => rfl
      | ok n => rfl

theorem run_writeTo
    (slot : Nat)
    (word : Int)
    (next : Action) :
    run site (writeTo slot word next) b =
      match site.parameters[slot]? with
      | none => (.error .noParameter, b)
      | some p =>
          match store site b.tape p word with
          | .error e => (.error e, b)
          | .ok t => run site next { b with tape := t } := by
  rw [writeTo, run_parameter]
  cases site.parameters[slot]? with
  | none => rfl
  | some p =>
      dsimp only
      rw [run]
      cases store site b.tape p word with
      | error e => rfl
      | ok t => rfl

theorem run_receiveFrom
    (source : Source)
    (next : Int → Action) :
    run site (receiveFrom source next) b =
      match b.host.receive source with
      | (.error e, h) => (.error e, b.withHost h)
      | (.ok n, h) => run site (next n) (b.withHost h) := by
  rw [receiveFrom, run]
  rcases b.host.receive source with ⟨e | n, h⟩
  · rfl
  · rfl

theorem run_emitTo
    (sink : Sink)
    (word : Int)
    (next : Action) :
    run site (emitTo sink word next) b =
      match b.host.emit word sink with
      | (.error e, h) => (.error e, b.withHost h)
      | (.ok _, h) => run site next (b.withHost h) := by
  rw [emitTo, run]
  rcases b.host.emit word sink with ⟨e | u, h⟩
  · rfl
  · rfl

end

------------------------------------------------------------
-- Words That Are Stored
------------------------------------------------------------

section

variable {site : Site} {t t' : Tape}
variable {p : Parameter} {word : Int}

/- A word is stored where a position parameter points. -/
theorem store_eq_ok_iff :
    store site t p word = .ok t' ↔
      p.mode = .position ∧ t.Contains p.raw ∧
        t' = t.overwrite [(p.raw, word)] := by
  unfold store
  cases hMode : p.mode with
  | immediate => simp
  | position =>
      rw [Tape.write]
      by_cases hInside : t.Contains p.raw
      · simp [hInside, Tape.overwrite, eq_comm]
      · simp [hInside]

/- An immediate parameter takes no word. -/
theorem store_immediate
    (hMode : p.mode = .immediate) :
    store site t p word =
      .error
        (Fault.immediateTarget p.position
          site.instruction.address).raised := by
  rw [store, hMode]

/- Neither does one that points outside the tape. -/
theorem store_outside
    (hMode : p.mode = .position)
    (hOutside : ¬ t.Contains p.raw) :
    store site t p word = .error (t.outOfBounds p.raw) := by
  rw [store, hMode]
  exact if_neg hOutside

end

------------------------------------------------------------
-- From Request To Request
------------------------------------------------------------

/-
  The first action, on its bench, makes one request, and its
  answer leads to the second one. The list has what was
  written by the request.
-/
inductive Proceeds
    (site : Site) :
    Action → Bench → List (Int × Int) → Action → Bench →
      Prop where
| inspect {next : Site → Action} {b : Bench} :
    Proceeds site (.inspect next) b [] (next site) b
| look {next : Bench → Action} {b : Bench} :
    Proceeds site (.look next) b [] (next b.quiet) b
| value
    {p : Parameter}
    {next : Except Failure Int → Action}
    {b : Bench} :
    Proceeds site (.value p next) b []
      (next (operand b.tape p)) b
| written
    {p : Parameter} {word : Int}
    {next : Except Failure Unit → Action}
    {b : Bench} {t : Tape}
    (hStore : store site b.tape p word = .ok t) :
    Proceeds site (.write p word next) b [(p.raw, word)]
      (next (.ok ())) { b with tape := t }
| refused
    {p : Parameter} {word : Int}
    {next : Except Failure Unit → Action}
    {b : Bench} {e : Failure}
    (hStore : store site b.tape p word = .error e) :
    Proceeds site (.write p word next) b []
      (next (.error e)) b
| receive
    {source : Source}
    {next : Except Failure Int → Action}
    {b : Bench} :
    Proceeds site (.receive source next) b []
      (next (b.host.receive source).1)
      (b.withHost (b.host.receive source).2)
| emit
    {sink : Sink} {word : Int}
    {next : Except Failure Unit → Action}
    {b : Bench} :
    Proceeds site (.emit sink word next) b []
      (next (b.host.emit word sink).1)
      (b.withHost (b.host.emit word sink).2)
| take
    {queue : Nat} {next : Option Int → Action} {b : Bench} :
    Proceeds site (.take queue next) b []
      (next (b.host.take queue).1)
      (b.withHost (b.host.take queue).2)
| keep
    {memory : Nat} {ns : List Int} {next : Action}
    {b : Bench} :
    Proceeds site (.keep memory ns next) b [] next
      (b.withHost (b.host.keep memory ns))
| note {record : Log.Record} {next : Action} {b : Bench} :
    Proceeds site (.note record next) b [] next
      (b.withHost (b.host.note record))

namespace Proceeds

variable {site : Site} {a a' : Action} {b b' : Bench}
variable {ws : List (Int × Int)}

/- An action does what the action it proceeds to does. -/
theorem run_eq
    (hProceeds : Proceeds site a b ws a' b') :
    a.run site b = a'.run site b' := by
  cases hProceeds with
  | written hStore => rw [run, hStore]
  | refused hStore => rw [run, hStore]
  | _ => rfl

/- The tape has what was written, and nothing else. -/
theorem tape_eq
    (hProceeds : Proceeds site a b ws a' b') :
    b'.tape = b.tape.overwrite ws := by
  cases hProceeds with
  | written hStore => exact (store_eq_ok_iff.mp hStore).2.2
  | _ => rfl

/- What was written is on the tape. -/
theorem contains
    (hProceeds : Proceeds site a b ws a' b') :
    ∀ w ∈ ws, b.tape.Contains w.1 := by
  cases hProceeds with
  | written hStore =>
      exact
        List.forall_mem_singleton.mpr
          (store_eq_ok_iff.mp hStore).2.1
  | _ => exact List.forall_mem_nil _

end Proceeds

/-
  The first action, on its bench, goes on to the second one,
  request by request.
-/
inductive Goes
    (site : Site) :
    Action → Bench → List (Int × Int) → Action → Bench →
      Prop where
| here (a : Action) (b : Bench) : Goes site a b [] a b
| next
    {a a₁ a' : Action} {b b₁ b' : Bench}
    {ws ws' : List (Int × Int)}
    (hProceeds : Proceeds site a b ws a₁ b₁)
    (hRest : Goes site a₁ b₁ ws' a' b') :
    Goes site a b (ws ++ ws') a' b'

namespace Goes

variable {site : Site} {a a' : Action} {b b' : Bench}
variable {ws : List (Int × Int)}

/- An action does what the action it goes on to does. -/
theorem run_eq
    (hGoes : Goes site a b ws a' b') :
    a.run site b = a'.run site b' := by
  induction hGoes with
  | here a b => rfl
  | next hProceeds hRest ih => rw [hProceeds.run_eq, ih]

theorem trans
    {a₁ : Action}
    {b₁ : Bench}
    {ws' : List (Int × Int)}
    (hFirst : Goes site a b ws a₁ b₁)
    (hSecond : Goes site a₁ b₁ ws' a' b') :
    Goes site a b (ws ++ ws') a' b' := by
  induction hFirst with
  | here a b => exact hSecond
  | next hProceeds hRest ih =>
      rw [List.append_assoc]
      exact .next hProceeds (ih hSecond)

/- The tape has what was written, and nothing else. -/
theorem tape_eq
    (hGoes : Goes site a b ws a' b') :
    b'.tape = b.tape.overwrite ws := by
  induction hGoes with
  | here a b => rfl
  | next hProceeds hRest ih =>
      rw [ih, hProceeds.tape_eq, Tape.overwrite_append]

/- What was written is on the tape. -/
theorem contains
    (hGoes : Goes site a b ws a' b') :
    ∀ w ∈ ws, b.tape.Contains w.1 := by
  induction hGoes with
  | here a b => exact List.forall_mem_nil _
  | next hProceeds hRest ih =>
      refine
        List.forall_mem_append.mpr
          ⟨hProceeds.contains, fun w hMember => ?_⟩
      have hPlace := ih w hMember
      rwa [hProceeds.tape_eq, Tape.Contains,
        Tape.size_overwrite] at hPlace

end Goes

------------------------------------------------------------
-- Whole Actions
------------------------------------------------------------

/- An action that makes no more requests. -/
inductive Final : Action → Prop where
| reply (r : Reply) : Final (.reply r)
| refuse (e : Failure) : Final (.refuse e)

/- It leaves the bench as it is. -/
theorem Final.run_bench
    {a : Action}
    (hFinal : a.Final)
    (site : Site)
    (b : Bench) :
    (a.run site b).2 = b := by
  cases hFinal with
  | reply r => rfl
  | refuse e => rfl

/- The action goes on until it makes no more requests. -/
def Settles
    (a : Action)
    (site : Site)
    (b : Bench) : Prop :=
  ∃ ws a' b', Goes site a b ws a' b' ∧ a'.Final

theorem Proceeds.settles
    {site : Site}
    {a a₁ : Action}
    {b b₁ : Bench}
    {ws : List (Int × Int)}
    (hProceeds : Proceeds site a b ws a₁ b₁)
    (hRest : a₁.Settles site b₁) :
    a.Settles site b := by
  rcases hRest with ⟨ws', a', b', hGoes, hFinal⟩
  exact ⟨_, a', b', .next hProceeds hGoes, hFinal⟩

/- Every action comes to an end. -/
theorem settles
    (a : Action)
    (site : Site)
    (b : Bench) :
    a.Settles site b := by
  induction a generalizing b with
  | reply r => exact ⟨_, _, _, .here _ b, .reply r⟩
  | refuse e => exact ⟨_, _, _, .here _ b, .refuse e⟩
  | write p word next ih =>
      rcases hStore : store site b.tape p word with e | t
      · exact Proceeds.settles (.refused hStore) (ih _ b)
      · exact Proceeds.settles (.written hStore) (ih _ _)
  | inspect next ih => exact Proceeds.inspect.settles (ih _ b)
  | look next ih => exact Proceeds.look.settles (ih _ b)
  | value p next ih => exact Proceeds.value.settles (ih _ b)
  | receive source next ih =>
      exact Proceeds.receive.settles (ih _ _)
  | emit sink word next ih =>
      exact Proceeds.emit.settles (ih _ _)
  | take queue next ih => exact Proceeds.take.settles (ih _ _)
  | keep memory ns next ih =>
      exact Proceeds.keep.settles (ih _)
  | note record next ih => exact Proceeds.note.settles (ih _)

/- All that an action does to the tape is to write words. -/
theorem run_overwrites
    (a : Action)
    (site : Site)
    (b : Bench) :
    ∃ ws,
      (a.run site b).2.tape = b.tape.overwrite ws ∧
        ∀ w ∈ ws, b.tape.Contains w.1 := by
  rcases a.settles site b with ⟨ws, a', b', hGoes, hFinal⟩
  refine ⟨ws, ?_, hGoes.contains⟩
  rw [hGoes.run_eq, hFinal.run_bench, hGoes.tape_eq]

end Action

/- Executing an operation changes what its action changes. -/
theorem Operation.execute_bench
    (o : Operation)
    (site : Action.Site)
    (b : Action.Bench) :
    (o.execute site b).2 = b ∨
      (o.execute site b).2 = (o.action.run site b).2 := by
  unfold execute
  split
  · refine Or.inr ?_
    rcases o.action.run site b with ⟨e | r, b₁⟩
    · rfl
    · rfl
  · exact Or.inl rfl

/- It does not change the size of the tape. -/
theorem Operation.size_execute
    {o : Operation}
    {site : Action.Site}
    {b b' : Action.Bench}
    {x : Except Failure Signal}
    (hExecute : o.execute site b = (x, b')) :
    b'.tape.size = b.tape.size := by
  have hBench := o.execute_bench site b
  rw [hExecute] at hBench
  rcases hBench with rfl | rfl
  · rfl
  · rcases o.action.run_overwrites site b with ⟨ws, hTape, -⟩
    rw [hTape, Tape.size_overwrite]

end IntcodeMachine
