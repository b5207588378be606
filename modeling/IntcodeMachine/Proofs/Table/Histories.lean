import IntcodeMachine.Machine.Collect
import IntcodeMachine.Proofs.Execution.Invariants
import IntcodeMachine.Proofs.Table.Overriding

/-
  This file proves that a table holds what was last put into
  it, or into the table that it was copied from.

  A host works on tables: it overrides them, copies them,
  loads machines with them and runs programs on them. A
  loaded machine and a run get a copy, and a run puts the
  output operation and, if it is given inputs, the input
  operation into its own. What is done is recorded in a
  journal, the newest event first. A deed that raises leaves
  all tables alone.

  Main declarations:
    * `Workshop`
    * `Workshop.perform`
    * `Journal.lastPut`
    * `Deed.events`
    * `Workshop.work`
    * `Journal.Explains`
    * `Journal.Explains.perform`
    * `Workshop.tables_remember`
-/

------------------------------------------------------------
-- Tables At Work
------------------------------------------------------------

namespace IntcodeMachine

/- The tables that were made so far, and the host. -/
structure Workshop where
  tables : List Table
  host : Host

/- What a host does with the table in a slot. -/
inductive Deed where
| override (slot : Nat) (key : Value) (entry : Table.Entry)
| copy (slot : Nat)
/- Load a machine with the table. -/
| load (slot : Nat) (p : Program) (delimiter : String)
/- Run a program on the table and collect its outputs. -/
| collect
    (slot : Nat)
    (p : Program)
    (inputs : Option (List Value))

/- The slot of the table that a deed works on. -/
def Deed.slot : Deed → Nat
| .override slot _ _ => slot
| .copy slot => slot
| .load slot _ _ => slot
| .collect slot _ _ => slot

namespace Workshop

/- A workshop with the standard table alone. -/
def start
    (source : Source)
    (sink : Sink)
    (h : Host) : Workshop :=
  ⟨[.standard source sink], h⟩

/- The workshop with one more table, in the next slot. -/
def add
    (w : Workshop)
    (t : Table)
    (h : Host) : Workshop :=
  ⟨w.tables ++ [t], h⟩

/- What a deed on the given table gives and leaves. -/
def performOn
    (budget : Nat)
    (w : Workshop)
    (t : Table) :
    Deed → Option (Except Failure Unit × Workshop)
| .override slot key entry =>
    match t.override key entry with
    | .error e => some (.error e, w)
    | .ok (t', notes) =>
        some
          (.ok (),
            ⟨w.tables.set slot t', w.host.noteAll notes⟩)
| .copy _ => some (.ok (), w.add t w.host)
| .load _ p delimiter =>
    match Machine.load p delimiter t with
    | .error e => some (.error e, w)
    | .ok m => some (.ok (), w.add m.table w.host)
| .collect _ p inputs =>
    match Collect.run budget p inputs t w.host with
    | none => none
    | some (.error e, h) =>
        some (.error e, { w with host := h })
    | some (.ok x, h) =>
        some (.ok (), w.add x.machine.table h)

/-
  The answer to a deed, and the workshop after it. There is
  none if the slot is empty, or if a program runs too long.
-/
def perform
    (budget : Nat)
    (w : Workshop)
    (d : Deed) : Option (Except Failure Unit × Workshop) :=
  match w.tables[d.slot]? with
  | none => none
  | some t => w.performOn budget t d

end Workshop

------------------------------------------------------------
-- Journals
------------------------------------------------------------

/- What has become of the tables. -/
inductive Event where
/- An operation was put under an opcode of a table. -/
| put (slot : Nat) (k : Opcode) (o : Operation)
/- A table was copied into a new slot. -/
| copied (source new : Nat)

/- What has happened, the newest first. -/
abbrev Journal := List Event

/-
  The last operation put under an opcode of a table, or of
  the table that it was copied from, before the copy.
-/
def Journal.lastPut :
    Journal → Nat → Opcode → Option Operation
| [], _, _ => none
| .put slot k o :: older, wanted, j =>
    if slot = wanted ∧ k = j then some o
    else lastPut older wanted j
| .copied source new :: older, wanted, j =>
    lastPut older (if new = wanted then source else wanted) j

/- What a run on a copy puts into it. -/
def Collect.events
    (h : Host)
    (new : Nat)
    (inputs : Option (List Value)) : Journal :=
  let output :=
    Event.put new Table.outputOpcode
      (.output (.collector h.collectors.length)
        Operation.outputName)
  match inputs with
  | none => [output]
  | some _ =>
      [output,
        .put new Table.inputOpcode
          (.input (.script h.scripts.length)
            Operation.inputName)]

/- What a deed that succeeds adds to the journal. -/
def Deed.events
    (w : Workshop) : Deed → Journal
| .override slot key entry =>
    match Table.accepted key entry with
    | none => []
    | some (k, o) => [.put slot k o]
| .copy slot => [.copied slot w.tables.length]
| .load slot _ _ => [.copied slot w.tables.length]
| .collect slot _ inputs =>
    Collect.events w.host w.tables.length inputs ++
      [.copied slot w.tables.length]

/- Do several deeds, with a journal of what was done. -/
def Workshop.work
    (budget : Nat) :
    List Deed → Journal → Workshop →
      Option (Journal × Workshop)
| [], journal, w => some (journal, w)
| d :: rest, journal, w =>
    match w.perform budget d with
    | none => none
    | some (.error _, w') => work budget rest journal w'
    | some (.ok _, w') =>
        work budget rest (d.events w ++ journal) w'

------------------------------------------------------------
-- What Journals Explain
------------------------------------------------------------

/-
  Each table holds what the journal says was last put into
  it, or else what the first table held.
-/
def Journal.Explains
    (first : Table)
    (journal : Journal)
    (tables : List Table) : Prop :=
  ∀ slot t,
    tables[slot]? = some t →
    ∀ k,
      t.entry k = (journal.lastPut slot k).or (first.entry k)

namespace Journal.Explains

variable {first t : Table} {journal : Journal}
variable {tables : List Table} {slot : Nat}

theorem start
    (first : Table) :
    Journal.Explains first [] [first] := by
  intro slot t hTable k
  cases slot with
  | zero =>
      rw [List.getElem?_cons_zero, Option.some.injEq]
        at hTable
      rw [← hTable, Journal.lastPut, Option.none_or]
  | succ slot => simp at hTable

/- Putting an operation into a table is explained. -/
theorem put
    (hExplains : journal.Explains first tables)
    (hTable : tables[slot]? = some t)
    (k : Opcode)
    (o : Operation) :
    Journal.Explains first (.put slot k o :: journal)
      (tables.set slot (t.set k o)) := by
  intro wanted t' hWanted j
  rw [Journal.lastPut]
  by_cases hSame : slot = wanted
  · subst hSame
    have hBound := (List.getElem?_eq_some_iff.mp hTable).1
    rw [List.getElem?_set_self hBound, Option.some.injEq]
      at hWanted
    rw [← hWanted]
    by_cases hKey : k = j
    · simp [Table.set, hKey]
    · simp only [Table.set, hKey, and_false, if_false,
        if_neg (Ne.symm hKey)]
      exact hExplains slot t hTable j
  · rw [List.getElem?_set_ne hSame] at hWanted
    rw [if_neg fun h => hSame h.1]
    exact hExplains wanted t' hWanted j

/- Copying a table is explained. -/
theorem copied
    (hExplains : journal.Explains first tables)
    (hTable : tables[slot]? = some t) :
    Journal.Explains first
      (.copied slot tables.length :: journal)
      (tables ++ [t]) := by
  intro wanted t' hWanted j
  rw [Journal.lastPut]
  by_cases hNew : tables.length = wanted
  · -- The copy has the history of its source up to here.
    subst hNew
    rw [List.getElem?_append_right (Nat.le_refl _),
      Nat.sub_self, List.getElem?_cons_zero,
      Option.some.injEq] at hWanted
    rw [← hWanted, if_pos rfl]
    exact hExplains slot t hTable j
  · have hBound := (List.getElem?_eq_some_iff.mp hWanted).1
    rw [List.length_append, List.length_singleton] at hBound
    rw [List.getElem?_append_left (by omega)] at hWanted
    rw [if_neg hNew]
    exact hExplains wanted t' hWanted j

/- So is putting an operation into the newest table. -/
theorem put_newest
    (hExplains : journal.Explains first (tables ++ [t]))
    (k : Opcode)
    (o : Operation) :
    Journal.Explains first
      (.put tables.length k o :: journal)
      (tables ++ [t.set k o]) := by
  have hPut :=
    hExplains.put List.getElem?_concat_length k o
  rwa [List.set_append_right _ _ (Nat.le_refl _),
    Nat.sub_self, List.set_cons_zero] at hPut

end Journal.Explains

------------------------------------------------------------
-- Runs On Copies
------------------------------------------------------------

/- A machine is loaded with a copy of the table. -/
theorem Machine.load_table
    {p : Program}
    {delimiter : String}
    {t : Table}
    {m : Machine}
    (hLoad : load p delimiter t = .ok m) :
    m.table = t := by
  unfold load at hLoad
  split at hLoad
  · simp at hLoad
  · rw [← Except.ok.inj hLoad]
    rfl

namespace Collect

variable {t t' : Table} {h h' : Host}
variable {p : Program} {inputs : Option (List Value)}

/- The table whose input comes from the inputs, if any. -/
def supplied
    (t : Table)
    (h : Host) : Option (List Value) → Table
| none => t
| some _ =>
    t.set Table.inputOpcode
      (.input (.script h.scripts.length)
        Operation.inputName)

theorem withInputs_table
    (hInputs : withInputs t h inputs = (.ok t', h')) :
    t' = supplied t h inputs := by
  cases inputs with
  | none =>
      rw [withInputs, Prod.mk.injEq, Except.ok.injEq]
        at hInputs
      exact hInputs.1.symm
  | some values =>
      rw [withInputs] at hInputs
      rcases hScript : Script.ofValues values with e | s
      · simp [hScript] at hInputs
      · simp only [hScript, Host.addScript, install,
          Prod.mk.injEq, Except.ok.injEq] at hInputs
        exact hInputs.1.symm

/- The machine of a run has the copy, supplied. -/
theorem prepare_table
    {ready : Prepared}
    (hPrepare : prepare p inputs t h = (.ok ready, h')) :
    ready.machine.table =
      (supplied t h inputs).set Table.outputOpcode
        (.output (.collector h.collectors.length)
          Operation.outputName) := by
  simp only [prepare, Host.addCollector] at hPrepare
  split at hPrepare
  · simp at hPrepare
  · rename_i t₁ h₁ hInputs
    have hSupplied : t₁ = supplied t h inputs :=
      (withInputs_table hInputs).trans
        (by cases inputs <;> rfl)
    simp only [install] at hPrepare
    rcases hLoad :
        Machine.load p Tape.standardDelimiter
          (t₁.set Table.outputOpcode
            (.output (.collector h.collectors.length)
              Operation.outputName)) with
      e | m
    · simp [hLoad] at hPrepare
    · simp only [hLoad, Prod.mk.injEq, Except.ok.injEq]
        at hPrepare
      rw [← hPrepare.1, Machine.load_table hLoad, hSupplied]

/- It still has it when the run is over. -/
theorem run_table
    {budget : Nat}
    {x : Result}
    (hRun : run budget p inputs t h = some (.ok x, h')) :
    x.machine.table =
      (supplied t h inputs).set Table.outputOpcode
        (.output (.collector h.collectors.length)
          Operation.outputName) := by
  unfold run at hRun
  rcases hPrepare : prepare p inputs t h with
    ⟨e | ready, h₁⟩
  · simp [hPrepare] at hRun
  · simp only [hPrepare] at hRun
    split at hRun
    · simp at hRun
    · simp at hRun
    · rename_i u r hRuns
      simp only [Option.some.injEq, Prod.mk.injEq,
        Except.ok.injEq] at hRun
      have hKept :=
        (Rig.kept_table ready.machine.table
          ready.machine.tracing).run ⟨rfl, rfl⟩ hRuns
      rw [← hRun.1, hKept.1, prepare_table hPrepare]

end Collect

------------------------------------------------------------
-- Deeds
------------------------------------------------------------

namespace Workshop

variable {w w' : Workshop} {d : Deed} {t first : Table}
variable {budget : Nat} {journal : Journal}

theorem perform_parts
    {x : Except Failure Unit}
    (hPerform : w.perform budget d = some (x, w')) :
    ∃ t,
      w.tables[d.slot]? = some t ∧
        w.performOn budget t d = some (x, w') := by
  unfold perform at hPerform
  cases hTable : w.tables[d.slot]? with
  | none => simp [hTable] at hPerform
  | some t =>
      rw [hTable] at hPerform
      exact ⟨t, rfl, hPerform⟩

/- An override succeeds if it is accepted. -/
theorem perform_override_of_accepted
    {slot : Nat}
    {key : Value}
    {entry : Table.Entry}
    {k : Opcode}
    {o : Operation}
    (budget : Nat)
    (hTable : w.tables[slot]? = some t)
    (hAccepted : Table.accepted key entry = some (k, o)) :
    w.perform budget (.override slot key entry) =
      some
        (.ok (),
          ⟨w.tables.set slot (t.set k o),
            w.host.noteAll (t.overrideNotes k o)⟩) := by
  simp only [perform, Deed.slot, hTable, performOn,
    Table.override_of_accepted t hAccepted]

/- It raises if it is not, and nothing changes. -/
theorem perform_override_of_not_accepted
    {slot : Nat}
    {key : Value}
    {entry : Table.Entry}
    (budget : Nat)
    (hTable : w.tables[slot]? = some t)
    (hNot : Table.accepted key entry = none) :
    ∃ e,
      w.perform budget (.override slot key entry) =
        some (.error e, w) := by
  rcases Table.override_of_not_accepted t hNot with
    ⟨e, hOverride⟩
  exact
    ⟨e, by
      simp only [perform, Deed.slot, hTable, performOn,
        hOverride]⟩

/- No deed that raises changes a table. -/
theorem tables_of_perform_error
    {e : Failure}
    (hPerform : w.perform budget d = some (.error e, w')) :
    w'.tables = w.tables := by
  rcases perform_parts hPerform with ⟨t, -, hDone⟩
  cases d with
  | override slot key entry =>
      rw [performOn] at hDone
      split at hDone
      · simp only [Option.some.injEq, Prod.mk.injEq]
          at hDone
        rw [hDone.2]
      · simp at hDone
  | copy slot => simp [performOn] at hDone
  | load slot p delimiter =>
      rw [performOn] at hDone
      split at hDone
      · simp only [Option.some.injEq, Prod.mk.injEq]
          at hDone
        rw [hDone.2]
      · simp at hDone
  | collect slot p inputs =>
      rw [performOn] at hDone
      split at hDone
      · simp at hDone
      · simp only [Option.some.injEq, Prod.mk.injEq]
          at hDone
        rw [← hDone.2]
      · simp at hDone

end Workshop

namespace Journal.Explains

variable {first t : Table} {journal : Journal}
variable {tables : List Table} {w w' : Workshop}
variable {budget : Nat} {d : Deed}

/- A run on a copy is explained. -/
theorem collected
    (hExplains : journal.Explains first (tables ++ [t]))
    (h : Host)
    (inputs : Option (List Value)) :
    Journal.Explains first
      (Collect.events h tables.length inputs ++ journal)
      (tables ++
        [(Collect.supplied t h inputs).set Table.outputOpcode
          (.output (.collector h.collectors.length)
            Operation.outputName)]) := by
  cases inputs with
  | none => exact hExplains.put_newest _ _
  | some values =>
      exact (hExplains.put_newest _ _).put_newest _ _

/- A deed that succeeds is explained by its events. -/
theorem perform
    (hExplains : journal.Explains first w.tables)
    (hPerform : w.perform budget d = some (.ok (), w')) :
    Journal.Explains first (d.events w ++ journal)
      w'.tables := by
  rcases Workshop.perform_parts hPerform with
    ⟨t, hTable, hDone⟩
  cases d with
  | override slot key entry =>
      rw [Deed.slot] at hTable
      cases hAccepted : Table.accepted key entry with
      | none =>
          rcases Workshop.perform_override_of_not_accepted
              budget hTable hAccepted with
            ⟨e, hRaises⟩
          rw [hRaises] at hPerform
          simp at hPerform
      | some x =>
          rcases x with ⟨k, o⟩
          rw [Workshop.perform_override_of_accepted budget
            hTable hAccepted, Option.some.injEq,
            Prod.mk.injEq] at hPerform
          rw [← hPerform.2, Deed.events, hAccepted]
          exact hExplains.put hTable k o
  | copy slot =>
      rw [Workshop.performOn, Option.some.injEq,
        Prod.mk.injEq] at hDone
      rw [← hDone.2]
      exact hExplains.copied hTable
  | load slot p delimiter =>
      rw [Workshop.performOn] at hDone
      split at hDone
      · simp at hDone
      · rename_i m hLoad
        rw [Option.some.injEq, Prod.mk.injEq] at hDone
        rw [← hDone.2, Machine.load_table hLoad]
        exact hExplains.copied hTable
  | collect slot p inputs =>
      rw [Workshop.performOn] at hDone
      split at hDone
      · simp at hDone
      · simp at hDone
      · rename_i x h hRun
        rw [Option.some.injEq, Prod.mk.injEq] at hDone
        rw [← hDone.2, Collect.run_table hRun, Deed.events,
          List.append_assoc]
        exact (hExplains.copied hTable).collected _ _

/- All deeds are explained. -/
theorem work
    {ds : List Deed}
    {after : Journal}
    (hExplains : journal.Explains first w.tables)
    (hWork : w.work budget ds journal = some (after, w')) :
    after.Explains first w'.tables := by
  induction ds generalizing journal w with
  | nil =>
      rw [Workshop.work, Option.some.injEq, Prod.mk.injEq]
        at hWork
      rw [← hWork.1, ← hWork.2]
      exact hExplains
  | cons d rest ih =>
      rw [Workshop.work] at hWork
      split at hWork
      · simp at hWork
      · -- What raises leaves no trace in the journal.
        rename_i e w₁ hPerform
        refine ih ?_ hWork
        rw [Workshop.tables_of_perform_error hPerform]
        exact hExplains
      · rename_i u w₁ hPerform
        exact ih (hExplains.perform hPerform) hWork

end Journal.Explains

------------------------------------------------------------
-- Looking Up
------------------------------------------------------------

namespace Workshop

variable {w w' : Workshop} {t : Table} {journal : Journal}
variable {source : Source} {sink : Sink} {budget : Nat}

/-
  A table gives for each integer what was last put under it,
  or else the standard operation; if there is neither, the
  opcode is unknown.
-/
structure Remembers
    (source : Source)
    (sink : Sink)
    (journal : Journal)
    (slot : Nat)
    (t : Table) : Prop where
  latest :
    ∀ (k : Opcode) o,
      journal.lastPut slot k = some o →
      t.lookup k.val none = .ok o
  standard :
    ∀ (k : Opcode) o,
      journal.lastPut slot k = none →
      (Table.standard source sink).entry k = some o →
      t.lookup k.val none = .ok o
  unknown :
    ∀ n,
      Numeral.Writable n →
      (∀ k : Opcode,
        n = k.val →
        journal.lastPut slot k = none ∧
          (Table.standard source sink).entry k = none) →
      t.lookup n none =
        .error (.fault (.unknownOpcode n none))

theorem remembers_of_explains
    {slot : Nat}
    (hExplains :
      journal.Explains (.standard source sink) w.tables)
    (hTable : w.tables[slot]? = some t) :
    Remembers source sink journal slot t where
  latest k o hPut := by
    have hEntry : t.entry k = some o := by
      rw [hExplains slot t hTable k, hPut, Option.some_or]
    rw [Table.lookup, Table.find?_opcode, hEntry]
  standard k o hNone hStandard := by
    have hEntry : t.entry k = some o := by
      rw [hExplains slot t hTable k, hNone, Option.none_or,
        hStandard]
    rw [Table.lookup, Table.find?_opcode, hEntry]
  unknown n hWritable hNone := by
    have hFind : t.find? n = none := by
      rw [Table.find?]
      cases hOpcode : Table.opcode? n with
      | none => rfl
      | some k =>
          rcases hNone k (Table.opcode?_eq_some_iff.mp hOpcode)
            with ⟨hPut, hStandard⟩
          rw [Option.bind_some, hExplains slot t hTable k,
            hPut, hStandard]
          rfl
    have hShown : (Fault.unknownOpcode n none).Writable := by
      intro m hMember
      rw [List.mem_singleton.mp hMember]
      exact hWritable
    rw [Table.lookup, hFind]
    simp only [Fault.raised, if_pos hShown]

/- What an override that succeeds has stored. -/
theorem stored_of_perform
    {slot : Nat}
    {k : Opcode}
    {entry : Table.Entry}
    (hPerform :
      w.perform budget
          (.override slot (.int k.val) entry) =
        some (.ok (), w')) :
    ∃ t o,
      w'.tables[slot]? = some t ∧
        t.lookup k.val none = .ok o ∧ entry.StoredAs k o := by
  rcases perform_parts hPerform with ⟨t, hTable, -⟩
  rw [Deed.slot] at hTable
  cases hAccepted : Table.accepted (.int k.val) entry with
  | none =>
      rcases perform_override_of_not_accepted budget hTable
          hAccepted with
        ⟨e, hRaises⟩
      rw [hRaises] at hPerform
      simp at hPerform
  | some x =>
      rcases x with ⟨j, o⟩
      rcases Table.accepted_eq_some_iff.mp hAccepted with
        ⟨hNamed, hMade⟩
      have hOpcode : Table.opcode? (k.val : Int) = some k :=
        Table.opcode?_eq_some_iff.mpr rfl
      have hSame : k = j :=
        Option.some.inj (hOpcode.symm.trans hNamed)
      subst hSame
      rw [perform_override_of_accepted budget hTable hAccepted,
        Option.some.injEq, Prod.mk.injEq] at hPerform
      have hBound := (List.getElem?_eq_some_iff.mp hTable).1
      refine
        ⟨t.set k o, o, ?_, ?_,
          Table.Entry.storedAs_of_made hMade⟩
      · rw [← hPerform.2]
        exact List.getElem?_set_self hBound
      · rw [Table.lookup, Table.find?_opcode, Table.set]
        simp

/- An override succeeds exactly if it is accepted. -/
theorem perform_override_cases
    {slot : Nat}
    (hSlot : slot < w.tables.length)
    (budget : Nat)
    (key : Value)
    (entry : Table.Entry) :
    ((Table.accepted key entry).isSome = true →
      ∃ w',
        w.perform budget (.override slot key entry) =
          some (.ok (), w')) ∧
    (¬ (Table.accepted key entry).isSome = true →
      ∃ e,
        w.perform budget (.override slot key entry) =
          some (.error e, w)) := by
  have hTable : w.tables[slot]? = some w.tables[slot] :=
    List.getElem?_eq_getElem hSlot
  constructor
  · intro hSome
    rcases Option.isSome_iff_exists.mp hSome with
      ⟨⟨k, o⟩, hAccepted⟩
    exact
      ⟨_, perform_override_of_accepted budget hTable
        hAccepted⟩
  · intro hNot
    exact
      perform_override_of_not_accepted budget hTable
        (Option.not_isSome_iff_eq_none.mp hNot)

/-
  After any deeds on a standard table, each table gives for
  each integer what its own journal says, and lists what it
  holds. An override succeeds exactly if the key is an
  integer from 0 to 99, and the entry an operation or a
  routine that fits; it raises otherwise and changes
  nothing. No deed that raises changes a table.
-/
theorem tables_remember
    {h : Host}
    {ds : List Deed}
    (hWork :
      (start source sink h).work budget ds [] =
        some (journal, w)) :
    (∀ slot t,
      w.tables[slot]? = some t →
      Remembers source sink journal slot t ∧ t.Listed) ∧
    (∀ slot key entry more,
      slot < w.tables.length →
      ((∃ w',
          w.perform more (.override slot key entry) =
            some (.ok (), w')) ↔
        (∃ n, key = .int n ∧ 0 ≤ n ∧ n ≤ 99) ∧
          ((∃ o, entry = .operation o) ∨
            ∃ r, entry = .routine r ∧ r.Fits)) ∧
      (¬ ((∃ n, key = .int n ∧ 0 ≤ n ∧ n ≤ 99) ∧
          ((∃ o, entry = .operation o) ∨
            ∃ r, entry = .routine r ∧ r.Fits)) →
        ∃ e,
          w.perform more (.override slot key entry) =
            some (.error e, w))) ∧
    (∀ slot (k : Opcode) entry more w',
      w.perform more (.override slot (.int k.val) entry) =
        some (.ok (), w') →
      ∃ t o,
        w'.tables[slot]? = some t ∧
          t.lookup k.val none = .ok o ∧
          entry.StoredAs k o) ∧
    (∀ d more e w',
      w.perform more d = some (.error e, w') →
      w'.tables = w.tables) := by
  have hExplains :
      journal.Explains (.standard source sink) w.tables :=
    (Journal.Explains.start _).work hWork
  refine ⟨?_, ?_, ?_, ?_⟩
  · intro slot t hTable
    exact
      ⟨remembers_of_explains hExplains hTable, t.listed⟩
  · intro slot key entry more hSlot
    rcases perform_override_cases hSlot more key entry with
      ⟨hSucceeds, hRaises⟩
    rw [Table.accepted_isSome_iff] at hSucceeds hRaises
    refine ⟨⟨?_, hSucceeds⟩, hRaises⟩
    rintro ⟨w', hPerform⟩
    by_contra hNot
    rcases hRaises hNot with ⟨e, hOther⟩
    rw [hPerform] at hOther
    simp at hOther
  · intro slot k entry more w' hPerform
    exact stored_of_perform hPerform
  · intro d more e w' hPerform
    exact tables_of_perform_error hPerform

/-
  A routine put into the first table is in its copy, too.
  What is put into the copy is in the copy that a program is
  run on, and no larger number becomes an opcode there.
-/
theorem copies_remember :
    ∃ journal w t o,
      (start .standard .standard (.fresh [])).work 1
          [.override 0 (.int 3)
            (.routine
              ⟨none, [.free, .positional], .advance⟩),
            .copy 0,
            .override 1 (.int 50) (.operation .add),
            .collect 1 (.values [.int 99]) none]
          [] =
        some (journal, w) ∧
      w.tables[2]? = some t ∧
      t.lookup 50 none = .ok .add ∧
      t.lookup 3 none = .ok o ∧ o.arity = 1 ∧
      ∃ e,
        w.perform 1
            (.override 2 (.int 100) (.operation .add)) =
          some (.error e, w) := by
  have hWork :
      ∃ journal w t o,
        (start .standard .standard (.fresh [])).work 1
            [.override 0 (.int 3)
              (.routine
                ⟨none, [.free, .positional], .advance⟩),
              .copy 0,
              .override 1 (.int 50) (.operation .add),
              .collect 1 (.values [.int 99]) none]
            [] =
          some (journal, w) ∧
        w.tables[2]? = some t ∧
        w.tables.length = 3 ∧
        journal.lastPut 2 50 = some .add ∧
        journal.lastPut 2 3 = some o ∧ o.arity = 1 :=
    ⟨_, _, _, _, rfl, rfl, rfl, rfl, rfl, rfl⟩
  rcases hWork with
    ⟨journal, w, t, o, hWork, hTable, hLength, hLater,
      hEarlier, hArity⟩
  rcases tables_remember hWork with ⟨hTables, hOverrides, -⟩
  rcases hTables 2 t hTable with ⟨hRemembers, -⟩
  have hRaises :=
    (hOverrides 2 (.int 100) (.operation .add) 1
      (by omega)).2
  refine
    ⟨journal, w, t, o, hWork, hTable,
      hRemembers.latest 50 .add hLater,
      hRemembers.latest 3 o hEarlier, hArity, hRaises ?_⟩
  rintro ⟨⟨n, hKey, -, hHigh⟩, -⟩
  rw [Value.int.injEq] at hKey
  omega

end Workshop

end IntcodeMachine
