import IntcodeMachine.Tape

/-
  This file defines how two snapshots of a tape differ.

  A snapshot is the list of the cells. Snapshots of unequal
  lengths are compared over the shorter one. The changes
  from one snapshot to another are listed by address, and
  laying them over the first gives the second on the
  addresses that both have.

  Key definitions include:
    * `Snapshot.Change`
    * `Snapshot.changes`
    * `Snapshot.patch`
-/

------------------------------------------------------------
-- Changes
------------------------------------------------------------

namespace IntcodeMachine

/- The cells of a tape at one moment. -/
abbrev Snapshot := List Int

/- The snapshot of a tape. -/
def Tape.snapshot (t : Tape) : Snapshot :=
  t.cells

namespace Snapshot

/- A cell that holds another integer than before. -/
structure Change where
  address : Nat
  before : Int
  after : Int
deriving DecidableEq, Repr

/- The changes between cells, from an address on. -/
def changesFrom :
    Nat → Snapshot → Snapshot → List Change
| address, a :: as, b :: bs =>
    if a = b then changesFrom (address + 1) as bs
    else
      ⟨address, a, b⟩ :: changesFrom (address + 1) as bs
| _, _, _ => []

/- The changes from one snapshot to another, by address. -/
def changes (a b : Snapshot) : List Change :=
  changesFrom 0 a b

/- A snapshot with the new integers laid over it. -/
def patch
    (s : Snapshot)
    (cs : List Change) : Snapshot :=
  cs.foldl (fun s c => s.set c.address c.after) s

end Snapshot

end IntcodeMachine
