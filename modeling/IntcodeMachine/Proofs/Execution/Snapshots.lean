import IntcodeMachine.Proofs.Execution.Invariants
import IntcodeMachine.Proofs.Execution.Replies
import IntcodeMachine.Proofs.Tape.Changes

/-
  This file follows the tape through an execution by
  snapshots, one before and one after each step.

  An action that writes a number of words at most changes as
  many cells at most, and a step executes one action at
  most. The standard operations write one word or none. No
  step changes the size of the tape, so the changes from
  each snapshot to the next lead from the first to the last.
  It makes no difference whether a step raises.

  Main declarations:
    * `Action.WritesAtMost`
    * `Action.Goes.length_le`
    * `Table.writesAtMost_standard`
    * `Rig.Leaves.length_changes_le`
    * `Rig.Filmed`
    * `Rig.Filmed.length_difference_le`
    * `Rig.snapshots_patched`
-/

------------------------------------------------------------
-- How Many Words Are Written
------------------------------------------------------------

namespace IntcodeMachine

namespace Action

/-
  However its requests are answered, the action writes so
  many words at most.
-/
def WritesAtMost : Nat → Action → Prop
| _, .reply _ => True
| _, .refuse _ => True
| n, .inspect next => ∀ s, WritesAtMost n (next s)
| n, .look next => ∀ b, WritesAtMost n (next b)
| n, .value _ next => ∀ x, WritesAtMost n (next x)
| 0, .write _ _ _ => False
| n + 1, .write _ _ next =>
    (∀ e, WritesAtMost (n + 1) (next (.error e))) ∧
      WritesAtMost n (next (.ok ()))
| n, .receive _ next => ∀ x, WritesAtMost n (next x)
| n, .emit _ _ next => ∀ x, WritesAtMost n (next x)
| n, .take _ next => ∀ k, WritesAtMost n (next k)
| n, .keep _ _ next => WritesAtMost n next
| n, .note _ next => WritesAtMost n next

section

variable {site : Site} {a a' : Action} {b b' : Bench}
variable {ws : List (Int × Int)} {n : Nat}

/- What a request writes is taken off the number. -/
theorem Proceeds.writesAtMost
    (hProceeds : Proceeds site a b ws a' b')
    (hWrites : a.WritesAtMost n) :
    ∃ m, n = ws.length + m ∧ a'.WritesAtMost m := by
  have hNothing
      {a' : Action}
      (hNext : a'.WritesAtMost n) :
      ∃ m,
        n = ([] : List (Int × Int)).length + m ∧
          a'.WritesAtMost m :=
    ⟨n, (Nat.zero_add n).symm, hNext⟩
  cases hProceeds with
  | written hStore =>
      cases n with
      | zero => exact hWrites.elim
      | succ n => exact ⟨n, Nat.add_comm n 1, hWrites.2⟩
  | refused hStore =>
      cases n with
      | zero => exact hWrites.elim
      | succ n => exact hNothing (hWrites.1 _)
  | keep => exact hNothing hWrites
  | note => exact hNothing hWrites
  | _ => exact hNothing (hWrites _)

/- So many words are written at most as it goes on. -/
theorem Goes.length_le
    (hGoes : Goes site a b ws a' b')
    (hWrites : a.WritesAtMost n) :
    ws.length ≤ n := by
  induction hGoes generalizing n with
  | here a b => exact Nat.zero_le n
  | next hProceeds hRest ih =>
      rcases hProceeds.writesAtMost hWrites with
        ⟨m, rfl, hLeft⟩
      rw [List.length_append]
      exact Nat.add_le_add_left (ih hLeft) _

end

------------------------------------------------------------
-- Usual Requests
------------------------------------------------------------

variable {n : Nat}

theorem writesAtMost_orFail
    {α : Type}
    {next : α → Action}
    (hNext : ∀ x, (next x).WritesAtMost n)
    (x : Except Failure α) :
    (orFail next x).WritesAtMost n := by
  cases x with
  | error e => trivial
  | ok y => exact hNext y

theorem writesAtMost_parameter
    {next : Parameter → Action}
    (slot : Nat)
    (hNext : ∀ p, (next p).WritesAtMost n) :
    (parameter slot next).WritesAtMost n := by
  intro site
  dsimp only
  split
  · trivial
  · exact hNext _

theorem writesAtMost_valueOf
    {next : Int → Action}
    (slot : Nat)
    (hNext : ∀ k, (next k).WritesAtMost n) :
    (valueOf slot next).WritesAtMost n :=
  writesAtMost_parameter slot fun _ =>
    writesAtMost_orFail hNext

/- One word more is written at most. -/
theorem writesAtMost_writeTo
    {next : Action}
    (slot : Nat)
    (word : Int)
    (hNext : next.WritesAtMost n) :
    (writeTo slot word next).WritesAtMost (n + 1) :=
  writesAtMost_parameter slot fun _ =>
    ⟨fun _ => trivial, hNext⟩

end Action

/- So it is for every operation of the table. -/
def Table.WritesAtMost
    (n : Nat)
    (t : Table) : Prop :=
  ∀ k o, t.entry k = some o → o.action.WritesAtMost n

theorem Operation.writesAtMost_combine
    (f : Int → Int → Int) :
    (combine f).WritesAtMost 1 :=
  Action.writesAtMost_valueOf 0 fun _ =>
    Action.writesAtMost_valueOf 1 fun _ =>
      Action.writesAtMost_writeTo 2 _ trivial

theorem Operation.writesAtMost_jumpIf
    (test : Int → Bool) :
    (jumpIf test).WritesAtMost 1 := by
  refine Action.writesAtMost_valueOf 0 fun a => ?_
  split
  · exact Action.writesAtMost_valueOf 1 fun _ => trivial
  · trivial

/- A standard operation writes one word or none. -/
theorem Table.writesAtMost_standard
    (source : Source)
    (sink : Sink) :
    (standard source sink).WritesAtMost 1 := by
  intro k o hEntry
  apply standard_entries hEntry
  case input =>
    exact
      Action.writesAtMost_orFail fun _ =>
        Action.writesAtMost_writeTo 0 _ trivial
  case output =>
    exact
      Action.writesAtMost_valueOf 0 fun _ =>
        Action.writesAtMost_orFail fun _ => trivial
  case jumpIfNonzero | jumpIfZero =>
    exact Operation.writesAtMost_jumpIf _
  case halt => trivial
  case add | multiply | lessThan | equals =>
    exact Operation.writesAtMost_combine _

------------------------------------------------------------
-- How Many Cells Are Changed
------------------------------------------------------------

/- Words that are written change as many cells at most. -/
theorem Tape.length_changes_overwrite_le
    {t : Tape}
    {ws : List (Int × Int)}
    (hPlaces : ∀ w ∈ ws, t.Contains w.1) :
    (t.snapshot.changes (t.overwrite ws).snapshot).length ≤
      ws.length := by
  have hDistinct :
      (Snapshot.addresses
        (t.snapshot.changes
          (t.overwrite ws).snapshot)).Nodup :=
    (Snapshot.increasing_changes _ _).nodup
  have hWritten :
      Snapshot.addresses
          (t.snapshot.changes (t.overwrite ws).snapshot) ⊆
        ws.map fun w => w.1.toNat := by
    intro k hMember
    have hChanged :=
      (Snapshot.mem_addresses_changes_iff.mp hMember).2.2
    rcases mem_of_overwrite_ne hPlaces hChanged.symm with
      ⟨w, hWrite, hAddress⟩
    refine List.mem_map.mpr ⟨w, hWrite, ?_⟩
    rw [hAddress, Int.toNat_natCast]
  have hLength := hDistinct.length_le_of_subset hWritten
  rwa [Snapshot.addresses, List.length_map, List.length_map]
    at hLength

namespace Rig

variable {r r' : Rig} {ss : List Snapshot} {n : Nat}

/- The snapshot of the tape. -/
def snapshot (r : Rig) : Snapshot :=
  r.machine.tape.snapshot

/- An instruction changes as many cells as it may write. -/
theorem Leaves.length_changes_le
    {t : Tape}
    (hLeaves : r.Leaves t)
    (hWrites : r.machine.table.WritesAtMost n) :
    (r.snapshot.changes t.snapshot).length ≤ n := by
  cases hLeaves with
  | same =>
      rw [show r.machine.tape.snapshot = r.snapshot from rfl,
        Snapshot.changes_self]
      exact Nat.zero_le n
  | action hFetch hOperands =>
      rename_i o i ps
      rcases o.action.settles ⟨i, ps⟩ r.bench with
        ⟨ws, a, b, hGoes, hFinal⟩
      have hFetched := Machine.fetch_eq_ok_iff.mp hFetch
      have hWords : ws.length ≤ n :=
        hGoes.length_le (hWrites _ _ hFetched.entry)
      rw [hGoes.run_eq, hFinal.run_bench, hGoes.tape_eq]
      exact
        Nat.le_trans
          (Tape.length_changes_overwrite_le hGoes.contains)
          hWords

theorem step_table
    (r : Rig) :
    r.step.2.machine.table = r.machine.table :=
  ((kept_table _ _).step ⟨rfl, rfl⟩).1

------------------------------------------------------------
-- Executions In Snapshots
------------------------------------------------------------

/-
  The snapshots taken after each of several steps. Before a
  step, anything may happen that leaves the tape and the
  table alone.
-/
inductive Filmed : Rig → List Snapshot → Prop where
| rest (r : Rig) : Filmed r []
| step
    {r : Rig}
    {ss : List Snapshot}
    (hRest : Filmed r.step.2 ss) :
    Filmed r (r.step.2.snapshot :: ss)
| between
    {r r' : Rig}
    {ss : List Snapshot}
    (hTape : r'.machine.tape = r.machine.tape)
    (hTable : r'.machine.table = r.machine.table)
    (hRest : Filmed r' ss) :
    Filmed r ss

namespace Filmed

/- All snapshots have the size of the tape. -/
theorem length_eq
    (hFilmed : Filmed r ss) :
    ∀ s ∈ ss, s.length = r.snapshot.length := by
  induction hFilmed with
  | rest r => simp
  | step hRest ih =>
      rename_i r ss
      have hSize :
          r.step.2.snapshot.length = r.snapshot.length :=
        r.step_leaves.size_eq
      refine List.forall_mem_cons.mpr ⟨hSize, ?_⟩
      exact fun s hMember => (ih s hMember).trans hSize
  | between hTape hTable hRest ih =>
      intro s hMember
      rw [ih s hMember, snapshot, hTape, snapshot]

/- No step changes more cells than its table may write. -/
theorem length_difference_le
    (hFilmed : Filmed r ss)
    (hWrites : r.machine.table.WritesAtMost n) :
    ∀ cs ∈ Snapshot.differences r.snapshot ss,
      cs.length ≤ n := by
  induction hFilmed with
  | rest r => simp [Snapshot.differences]
  | step hRest ih =>
      rename_i r ss
      refine List.forall_mem_cons.mpr ⟨?_, ih ?_⟩
      · exact r.step_leaves.length_changes_le hWrites
      · rw [r.step_table]
        exact hWrites
  | between hTape hTable hRest ih =>
      rename_i r r' ss
      rw [show r.snapshot = r'.snapshot by
        rw [snapshot, snapshot, hTape]]
      apply ih
      rw [hTable]
      exact hWrites

end Filmed

/-
  The changes between two snapshots are an exact patch: they
  list each address that both have and at which they differ,
  once, with both integers. Laid over the first snapshot,
  they give the second one as far as both reach; taken back,
  they give the first; and the changes back are the changes,
  each swapped.

  So the changes that the steps of an execution make, those
  that raise included, lead patch by patch from the first
  snapshot to the last, and every address that differs in
  the end is among them. With the standard operations, a
  step changes one cell at most.
-/
theorem snapshots_patched :
    (∀ a b : Snapshot,
      (∀ c,
        c ∈ a.changes b ↔
          a[c.address]? = some c.before ∧
            b[c.address]? = some c.after ∧
            c.before ≠ c.after) ∧
      ((Snapshot.addresses (a.changes b)).Pairwise
        fun j k => j < k) ∧
      a.patch (a.changes b) =
        b.take a.length ++ a.drop b.length ∧
      b.revert (a.changes b) =
        a.take b.length ++ b.drop a.length ∧
      b.changes a =
        (a.changes b).map Snapshot.Change.swap) ∧
    (∀ r ss,
      Filmed r ss →
        let last := ss.getLastD r.snapshot
        let steps := Snapshot.differences r.snapshot ss
        steps.foldl Snapshot.patch r.snapshot = last ∧
        (∀ k ∈ Snapshot.addresses (r.snapshot.changes last),
          ∃ cs ∈ steps, k ∈ Snapshot.addresses cs) ∧
        (∀ source sink,
          r.machine.table = .standard source sink →
            ∀ cs ∈ steps, cs.length ≤ 1)) := by
  constructor
  · intro a b
    exact
      ⟨fun c => Snapshot.mem_changes_iff,
        Snapshot.increasing_changes a b,
        Snapshot.patch_changes a b,
        Snapshot.revert_changes a b,
        Snapshot.changes_swap a b⟩
  · intro r ss hFilmed
    have hLengths := hFilmed.length_eq
    refine
      ⟨Snapshot.foldl_patch_differences hLengths,
        fun k => Snapshot.exists_mem_differences hLengths,
        fun source sink hTable => ?_⟩
    apply hFilmed.length_difference_le
    rw [hTable]
    exact Table.writesAtMost_standard source sink

end Rig

/- Change the last cell and restore it, then change another. -/
def Tape.restoring : Tape :=
  ⟨[1101, 5, 0, 13, 1101, 1, 0, 13, 1101, 3, 4, 12, 0, 1]⟩

namespace Rig

/-
  The last step comes to a comparison that was just written.
  Its parameters do not fit on the tape, so it raises.
-/
theorem restored_cell_patched :
    ∃ r ss,
      r = loaded .restoring .onConsole false (.fresh []) ∧
      Filmed r ss ∧
      (∃ e r', r.step.2.step.2.step.2.step = (.error e, r')) ∧
      Snapshot.differences r.snapshot ss =
        [[⟨13, 1, 5⟩], [⟨13, 5, 1⟩], [⟨12, 0, 7⟩], []] ∧
      12 ∈
        Snapshot.addresses
          (r.snapshot.changes (ss.getLastD r.snapshot)) ∧
      (Snapshot.differences r.snapshot ss).foldl
          Snapshot.patch r.snapshot =
        ss.getLastD r.snapshot ∧
      (∃ cs ∈ Snapshot.differences r.snapshot ss,
        12 ∈ Snapshot.addresses cs) ∧
      ∀ cs ∈ Snapshot.differences r.snapshot ss,
        cs.length ≤ 1 := by
  have hFilmed (r : Rig) :
      Filmed r
        [r.step.2.snapshot, r.step.2.step.2.snapshot,
          r.step.2.step.2.step.2.snapshot,
          r.step.2.step.2.step.2.step.2.snapshot] :=
    .step (.step (.step (.step (.rest _))))
  rcases snapshots_patched.2 _ _
      (hFilmed
        (loaded .restoring .onConsole false (.fresh []))) with
    ⟨hPatched, hAddresses, hLengths⟩
  have hTwelve :
      12 ∈
        Snapshot.addresses
          (Tape.restoring.snapshot.changes
            [1101, 5, 0, 13, 1101, 1, 0, 13, 1101, 3, 4, 12,
              7, 1]) := by
    decide
  exact
    ⟨_, _, rfl, hFilmed _, ⟨_, _, rfl⟩, rfl, hTwelve, hPatched,
      hAddresses 12 hTwelve, hLengths .standard .standard rfl⟩

end Rig

end IntcodeMachine
