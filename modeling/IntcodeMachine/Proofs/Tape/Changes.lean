import IntcodeMachine.Tape.Difference
import Mathlib.Data.List.Basic
import Mathlib.Data.List.Nodup

/-
  This file proves that the changes from one snapshot to
  another are an exact patch.

  They list the addresses which both snapshots have and at
  which they differ, each of them once. Laid over the first
  snapshot, they give the second one as far as both reach.
  Taken back, they give the first one.

  Of several snapshots in a row, each is compared with the
  next. If all have one length, these changes lead from the
  first snapshot to the last one, and a cell that differs in
  the end was changed on the way.

  Main declarations:
    * `Snapshot.mem_changes_iff`
    * `Snapshot.increasing_changes`
    * `Snapshot.patch_changes`
    * `Snapshot.changes_swap`
    * `Snapshot.revert_changes`
    * `Snapshot.differences`
    * `Snapshot.foldl_patch_differences`
    * `Snapshot.exists_mem_differences`
-/

------------------------------------------------------------
-- The Changes
------------------------------------------------------------

namespace IntcodeMachine

namespace Snapshot

variable {a b s : Snapshot} {c : Change} {cs : List Change}
variable {first k : Nat}

/- The addresses of changes, in order. -/
def addresses (cs : List Change) : List Nat :=
  cs.map Change.address

theorem mem_changesFrom_iff :
    c ∈ changesFrom first a b ↔
      ∃ k,
        c.address = first + k ∧ a[k]? = some c.before ∧
          b[k]? = some c.after ∧ c.before ≠ c.after := by
  induction a generalizing first b with
  | nil => simp [changesFrom]
  | cons x as ih =>
      cases b with
      | nil => simp [changesFrom]
      | cons y bs =>
          -- The change is at the first cell or at a later one.
          rw [changesFrom, ← Nat.or_exists_add_one]
          simp only [List.getElem?_cons_zero, Option.some.injEq,
            List.getElem?_cons_succ, Nat.add_zero]
          have hLater :
              c ∈ changesFrom (first + 1) as bs ↔
                ∃ k,
                  c.address = first + (k + 1) ∧
                    as[k]? = some c.before ∧
                    bs[k]? = some c.after ∧
                    c.before ≠ c.after := by
            simp only [ih, Nat.add_assoc, Nat.add_comm 1]
          split
          · rename_i hSame
            rw [hLater]
            refine (or_iff_right ?_).symm
            rintro ⟨-, hBefore, hAfter, hChanged⟩
            rw [← hBefore, ← hAfter] at hChanged
            exact hChanged hSame
          · rename_i hDiffers
            rw [List.mem_cons, hLater]
            refine or_congr_left ?_
            constructor
            · rintro rfl
              exact ⟨rfl, rfl, rfl, hDiffers⟩
            · rintro ⟨hAddress, hBefore, hAfter, -⟩
              rw [hBefore, hAfter, ← hAddress]

/-
  A change is listed exactly if both snapshots have its
  address, and the integers there are the ones it tells and
  differ.
-/
theorem mem_changes_iff :
    c ∈ a.changes b ↔
      a[c.address]? = some c.before ∧
        b[c.address]? = some c.after ∧
        c.before ≠ c.after := by
  rw [changes, mem_changesFrom_iff]
  simp only [Nat.zero_add]
  exact exists_eq_left'

theorem mem_addresses_changes_iff :
    k ∈ addresses (a.changes b) ↔
      k < a.length ∧ k < b.length ∧ a[k]? ≠ b[k]? := by
  rw [addresses, List.mem_map]
  constructor
  · rintro ⟨c, hMember, rfl⟩
    rcases mem_changes_iff.mp hMember with
      ⟨hBefore, hAfter, hChanged⟩
    refine
      ⟨(List.getElem?_eq_some_iff.mp hBefore).1,
        (List.getElem?_eq_some_iff.mp hAfter).1, ?_⟩
    rw [hBefore, hAfter]
    exact fun hSame => hChanged (Option.some.inj hSame)
  · rintro ⟨hFirst, hSecond, hDiffers⟩
    have hBefore := List.getElem?_eq_getElem hFirst
    have hAfter := List.getElem?_eq_getElem hSecond
    rw [hBefore, hAfter] at hDiffers
    exact
      ⟨⟨k, a[k], b[k]⟩,
        mem_changes_iff.mpr
          ⟨hBefore, hAfter,
            fun hSame => hDiffers (congrArg some hSame)⟩,
        rfl⟩

/- Nothing differs from itself. -/
theorem changes_self
    (s : Snapshot) :
    s.changes s = [] := by
  refine List.eq_nil_iff_forall_not_mem.mpr ?_
  intro c hMember
  rcases mem_changes_iff.mp hMember with
    ⟨hBefore, hAfter, hChanged⟩
  rw [hBefore] at hAfter
  exact hChanged (Option.some.inj hAfter)

theorem increasing_changesFrom
    (first : Nat)
    (a b : Snapshot) :
    (addresses (changesFrom first a b)).Pairwise
      fun j k => j < k := by
  induction a generalizing first b with
  | nil => simp [changesFrom, addresses]
  | cons x as ih =>
      cases b with
      | nil => simp [changesFrom, addresses]
      | cons y bs =>
          rw [changesFrom]
          split
          · exact ih (first + 1) bs
          · rw [addresses, List.map_cons, List.pairwise_cons]
            refine ⟨fun k hMember => ?_, ih (first + 1) bs⟩
            rcases List.mem_map.mp hMember with
              ⟨c, hLater, rfl⟩
            rcases mem_changesFrom_iff.mp hLater with
              ⟨j, hAddress, -⟩
            rw [hAddress]
            exact Nat.lt_add_right j (Nat.lt_succ_self first)

/- The addresses go up, so each is listed once. -/
theorem increasing_changes
    (a b : Snapshot) :
    (addresses (a.changes b)).Pairwise fun j k => j < k :=
  increasing_changesFrom 0 a b

------------------------------------------------------------
-- Patches
------------------------------------------------------------

/- Cells that are not among the changes stay. -/
theorem getElem?_patch
    (hOther : k ∉ addresses cs) :
    (s.patch cs)[k]? = s[k]? := by
  induction cs generalizing s with
  | nil => rfl
  | cons c rest ih =>
      rw [addresses, List.map_cons, List.mem_cons, not_or]
        at hOther
      have hRest :=
        ih (s := s.set c.address c.after) hOther.2
      exact
        hRest.trans (List.getElem?_set_ne (Ne.symm hOther.1))

theorem patch_changesFrom
    (before a b : Snapshot) :
    patch (before ++ a) (changesFrom before.length a b) =
      before ++ (b.take a.length ++ a.drop b.length) := by
  induction a generalizing before b with
  | nil => simp [changesFrom, patch]
  | cons x as ih =>
      cases b with
      | nil => simp [changesFrom, patch]
      | cons y bs =>
          -- What is patched from the next cell on.
          have hRest :
              patch (before ++ y :: as)
                  (changesFrom (before.length + 1) as bs) =
                before ++
                  y :: (bs.take as.length ++
                    as.drop bs.length) := by
            have hNext := ih (before ++ [y]) bs
            simpa using hNext
          rw [changesFrom]
          split
          · rename_i hSame
            rw [hSame, hRest]
            rfl
          · have hSet :
                (before ++ x :: as).set before.length y =
                  before ++ y :: as := by
              simp
            rw [patch, List.foldl_cons, hSet]
            exact hRest

/-
  The changes from one snapshot to another, laid over the
  first, give the second one as far as both reach.
-/
theorem patch_changes
    (a b : Snapshot) :
    a.patch (a.changes b) =
      b.take a.length ++ a.drop b.length :=
  patch_changesFrom [] a b

theorem patch_changes_of_length
    (hLength : b.length = a.length) :
    a.patch (a.changes b) = b := by
  rw [patch_changes, ← hLength, List.take_length, hLength,
    List.drop_length, List.append_nil]

------------------------------------------------------------
-- The Other Direction
------------------------------------------------------------

/- The change the other way round. -/
def Change.swap (c : Change) : Change :=
  ⟨c.address, c.after, c.before⟩

/- A snapshot with the old integers laid over it. -/
def revert
    (s : Snapshot)
    (cs : List Change) : Snapshot :=
  cs.foldl (fun s c => s.set c.address c.before) s

theorem revert_eq_patch
    (s : Snapshot)
    (cs : List Change) :
    s.revert cs = s.patch (cs.map Change.swap) := by
  rw [patch, List.foldl_map]
  rfl

theorem changesFrom_swap
    (first : Nat)
    (a b : Snapshot) :
    changesFrom first b a =
      (changesFrom first a b).map Change.swap := by
  induction a generalizing first b with
  | nil => cases b <;> rfl
  | cons x as ih =>
      cases b with
      | nil => rfl
      | cons y bs =>
          rw [changesFrom, changesFrom]
          by_cases hSame : x = y
          · rw [if_pos hSame, if_pos hSame.symm, ih]
          · rw [if_neg hSame, if_neg (Ne.symm hSame), ih]
            rfl

/- The changes back are the changes, each swapped. -/
theorem changes_swap
    (a b : Snapshot) :
    b.changes a = (a.changes b).map Change.swap :=
  changesFrom_swap 0 a b

/- Taken back, the changes give the first snapshot. -/
theorem revert_changes
    (a b : Snapshot) :
    b.revert (a.changes b) =
      a.take b.length ++ b.drop a.length := by
  rw [revert_eq_patch, ← changes_swap, patch_changes]

------------------------------------------------------------
-- Snapshots In A Row
------------------------------------------------------------

/- The changes to each of the snapshots from the one before. -/
def differences :
    Snapshot → List Snapshot → List (List Change)
| _, [] => []
| s, t :: rest => s.changes t :: differences t rest

section

variable {ss : List Snapshot} {css : List (List Change)}

/- Patch by patch, the last snapshot is reached. -/
theorem foldl_patch_differences
    (hLengths : ∀ t ∈ ss, t.length = s.length) :
    (differences s ss).foldl patch s = ss.getLastD s := by
  induction ss generalizing s with
  | nil => rfl
  | cons t rest ih =>
      rcases List.forall_mem_cons.mp hLengths with
        ⟨hLength, hRest⟩
      rw [differences, List.foldl_cons,
        patch_changes_of_length hLength, List.getLastD_cons]
      refine ih fun u hMember => ?_
      rw [hLength]
      exact hRest u hMember

theorem getElem?_foldl_patch
    (hOther : ∀ cs ∈ css, k ∉ addresses cs) :
    (css.foldl patch s)[k]? = s[k]? := by
  induction css generalizing s with
  | nil => rfl
  | cons cs rest ih =>
      rcases List.forall_mem_cons.mp hOther with
        ⟨hHere, hRest⟩
      exact (ih hRest).trans (getElem?_patch hHere)

/- What differs in the end was changed on the way. -/
theorem exists_mem_differences
    (hLengths : ∀ t ∈ ss, t.length = s.length)
    (hChanged : k ∈ addresses (s.changes (ss.getLastD s))) :
    ∃ cs ∈ differences s ss, k ∈ addresses cs := by
  refine Classical.byContradiction fun hNever => ?_
  have hOther :
      ∀ cs ∈ differences s ss, k ∉ addresses cs :=
    fun cs hMember hHere => hNever ⟨cs, hMember, hHere⟩
  have hSame : (ss.getLastD s)[k]? = s[k]? := by
    rw [← foldl_patch_differences hLengths]
    exact getElem?_foldl_patch hOther
  exact (mem_addresses_changes_iff.mp hChanged).2.2 hSame.symm

end

end Snapshot

end IntcodeMachine
