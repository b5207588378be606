import IntcodeMachine.Table
import Mathlib.Data.List.Nodup

/-
  This file says which overrides a table accepts, and that
  its listing shows what it holds.

  A key is accepted if it is an integer from 0 to 99. An
  operation is accepted as it is. A routine is accepted if
  its parameters without a default are passed by position,
  and there are one to four of them; the first is the
  context.

  Main declarations:
    * `Routine.Fits`
    * `Table.accepted`
    * `Table.accepted_isSome_iff`
    * `Table.override_of_accepted`
    * `Table.override_of_not_accepted`
    * `Table.Listed`
    * `Table.listed`
-/

------------------------------------------------------------
-- Routines That Become Operations
------------------------------------------------------------

namespace IntcodeMachine

/-
  The parameters without a default are passed by position.
  There is one for the context, and three others at most.
-/
structure Routine.Fits (r : Routine) : Prop where
  fixed : ∀ p ∈ r.required, p.isFixed = true
  low : 1 ≤ r.required.length
  high : r.required.length ≤ 4

instance (r : Routine) : Decidable r.Fits :=
  decidable_of_iff
    ((∀ p ∈ r.required, p.isFixed = true) ∧
      1 ≤ r.required.length ∧ r.required.length ≤ 4)
    ⟨fun h => ⟨h.1, h.2.1, h.2.2⟩,
      fun h => ⟨h.fixed, h.low, h.high⟩⟩

namespace Operation

variable {r : Routine} {name : String}

/- The operation with the operands of a routine. -/
def callingRoutine
    (name : String)
    (r : Routine)
    (hFits : r.Fits) : Operation where
  name := name
  arity := r.required.length - 1
  action := r.action
  arity_le := by
    have hHigh := hFits.high
    rw [maxArity]
    omega

theorem ofRoutine_of_fits
    (hFits : r.Fits)
    (hName : name.isEmpty = false) :
    ofRoutine r (some name) =
      .ok (callingRoutine name r hFits) := by
  have hFixed :
      r.required.all Routine.Passing.isFixed = true :=
    List.all_eq_true.mpr hFits.fixed
  have hHigh := hFits.high
  unfold ofRoutine
  rw [if_pos hFixed]
  cases hRequired : r.required with
  | nil =>
      have hLow := hFits.low
      simp [hRequired] at hLow
  | cons context operands =>
      rw [hRequired, List.length_cons] at hHigh
      have hArity :
          0 ≤ (operands.length : Int) ∧
            (operands.length : Int) ≤ maxArity := by
        rw [maxArity]
        omega
      simp [declare, hArity, routineName, hName,
        callingRoutine, hRequired]

theorem ofRoutine_of_not_fits
    (hNot : ¬ r.Fits)
    (given : Option String) :
    ∃ e, ofRoutine r given = .error e := by
  unfold ofRoutine
  split
  · rename_i hFixed
    cases hRequired : r.required with
    | nil => exact ⟨_, rfl⟩
    | cons context operands =>
        have hArity :
            ¬ (0 ≤ (operands.length : Int) ∧
              (operands.length : Int) ≤ maxArity) := by
          rintro ⟨-, hHigh⟩
          rw [maxArity] at hHigh
          refine hNot ⟨List.all_eq_true.mp hFixed, ?_, ?_⟩
          · rw [hRequired, List.length_cons]
            omega
          · rw [hRequired, List.length_cons]
            omega
        dsimp only
        rw [declare, dif_neg hArity]
        split
        · exact ⟨_, rfl⟩
        · exact ⟨_, rfl⟩
  · exact ⟨_, rfl⟩

end Operation

namespace Table

variable {t : Table} {key : Value} {entry : Entry}
variable {n : Int} {k : Opcode} {o : Operation}

------------------------------------------------------------
-- Accepted Overrides
------------------------------------------------------------

/- An integer is an opcode if it is its number. -/
theorem opcode?_eq_some_iff :
    opcode? n = some k ↔ n = k.val := by
  unfold opcode?
  split
  · rename_i hRange
    have hSame :
        (Fin.ofNat 100 n.toNat).val = n.toNat % 100 := rfl
    rw [Option.some.injEq, Fin.ext_iff, hSame]
    omega
  · have hBound := k.isLt
    simp only [reduceCtorEq, false_iff]
    omega

theorem opcode?_eq_none_iff :
    opcode? n = none ↔ ¬ (0 ≤ n ∧ n ≤ 99) := by
  unfold opcode?
  split
  · simp only [reduceCtorEq, false_iff]
    omega
  · simp only [true_iff]
    omega

theorem entryName_ne_empty
    (k : Opcode) :
    (entryName k).isEmpty = false := by
  rw [Bool.eq_false_iff, ne_eq, String.isEmpty_iff]
  intro hEmpty
  have hLength := congrArg String.length hEmpty
  simp [entryName] at hLength

/- The operation that an entry makes under an opcode. -/
def Entry.made
    (k : Opcode) : Entry → Option Operation
| .operation o => some o
| .routine r =>
    if hFits : r.Fits then
      some (.callingRoutine (entryName k) r hFits)
    else none
| .other _ => none

/- The opcode that a key names. A boolean names none. -/
def namedOpcode? : Value → Option Opcode
| .int n => opcode? n
| _ => none

/- What is put where if an override is accepted. -/
def accepted
    (key : Value)
    (entry : Entry) : Option (Opcode × Operation) :=
  (namedOpcode? key).bind fun k =>
    (entry.made k).map fun o => (k, o)

theorem accepted_eq_some_iff :
    accepted key entry = some (k, o) ↔
      namedOpcode? key = some k ∧ entry.made k = some o := by
  rw [accepted, Option.bind_eq_some_iff]
  constructor
  · rintro ⟨j, hNamed, hMap⟩
    rw [Option.map_eq_some_iff] at hMap
    rcases hMap with ⟨o₁, hMade, hSame⟩
    rcases Prod.mk.inj hSame with ⟨rfl, rfl⟩
    exact ⟨hNamed, hMade⟩
  · rintro ⟨hNamed, hMade⟩
    exact ⟨k, hNamed, by rw [hMade, Option.map_some]⟩

theorem keyOf_of_named
    (hNamed : namedOpcode? key = some k) :
    keyOf key = .ok k := by
  cases key with
  | int n =>
      rw [namedOpcode?] at hNamed
      rw [keyOf, hNamed]
  | _ => simp [namedOpcode?] at hNamed

theorem keyOf_of_not_named
    (hNot : namedOpcode? key = none) :
    ∃ e, keyOf key = .error e := by
  unfold keyOf
  split
  · rename_i n
    rw [namedOpcode?] at hNot
    rw [hNot]
    dsimp only
    split
    · exact ⟨_, rfl⟩
    · exact ⟨_, rfl⟩
  · split
    · exact ⟨_, rfl⟩
    · exact ⟨_, rfl⟩

theorem operationOf_of_made
    (hMade : entry.made k = some o) :
    operationOf k entry = .ok o := by
  cases entry with
  | operation o₁ =>
      rw [← Option.some.inj hMade]
      rfl
  | routine r =>
      rw [Entry.made] at hMade
      split at hMade
      · rename_i hFits
        rw [operationOf, ← Option.some.inj hMade]
        exact
          Operation.ofRoutine_of_fits hFits
            (entryName_ne_empty k)
      · simp at hMade
  | other v => simp [Entry.made] at hMade

theorem operationOf_of_not_made
    (hNot : entry.made k = none) :
    ∃ e, operationOf k entry = .error e := by
  cases entry with
  | operation o₁ => simp [Entry.made] at hNot
  | routine r =>
      rw [Entry.made] at hNot
      split at hNot
      · simp at hNot
      · rename_i hMisfit
        exact Operation.ofRoutine_of_not_fits hMisfit _
  | other v =>
      rw [operationOf]
      split
      · exact ⟨_, rfl⟩
      · exact ⟨_, rfl⟩

/- An accepted override puts the operation under its opcode. -/
theorem override_of_accepted
    (t : Table)
    (hAccepted : accepted key entry = some (k, o)) :
    t.override key entry =
      .ok (t.set k o, t.overrideNotes k o) := by
  rcases accepted_eq_some_iff.mp hAccepted with
    ⟨hNamed, hMade⟩
  simp only [override, keyOf_of_named hNamed,
    operationOf_of_made hMade]

/- Any other override raises. -/
theorem override_of_not_accepted
    (t : Table)
    (hNot : accepted key entry = none) :
    ∃ e, t.override key entry = .error e := by
  unfold override
  cases hNamed : namedOpcode? key with
  | none =>
      rcases keyOf_of_not_named hNamed with ⟨e, hKey⟩
      exact ⟨e, by rw [hKey]⟩
  | some k =>
      rw [accepted, hNamed, Option.bind_some,
        Option.map_eq_none_iff] at hNot
      rcases operationOf_of_not_made hNot with
        ⟨e, hOperation⟩
      exact
        ⟨e, by
          simp only [keyOf_of_named hNamed, hOperation]⟩

theorem namedOpcode?_isSome_iff :
    (namedOpcode? key).isSome = true ↔
      ∃ n, key = .int n ∧ 0 ≤ n ∧ n ≤ 99 := by
  cases key with
  | int n =>
      rw [namedOpcode?, Option.isSome_iff_ne_none, ne_eq,
        opcode?_eq_none_iff, Decidable.not_not]
      simp
  | _ => simp [namedOpcode?]

theorem Entry.made_isSome_iff
    (k : Opcode) :
    (entry.made k).isSome = true ↔
      (∃ o, entry = .operation o) ∨
        ∃ r, entry = .routine r ∧ r.Fits := by
  cases entry with
  | operation o => simp [made]
  | routine r =>
      rw [made]
      split
      · rename_i hFits
        simp [hFits]
      · rename_i hMisfit
        simp [hMisfit]
  | other v => simp [made]

/-
  Accepted are the integers from 0 to 99 as keys, and as
  entries the operations and the routines that fit.
-/
theorem accepted_isSome_iff :
    (accepted key entry).isSome = true ↔
      (∃ n, key = .int n ∧ 0 ≤ n ∧ n ≤ 99) ∧
        ((∃ o, entry = .operation o) ∨
          ∃ r, entry = .routine r ∧ r.Fits) := by
  rw [← namedOpcode?_isSome_iff, accepted]
  cases hNamed : namedOpcode? key with
  | none => simp
  | some k =>
      rw [← entry.made_isSome_iff k, Option.bind_some,
        Option.isSome_map]
      simp

/-
  What an entry is stored as: an operation as it is, and a
  routine under the name of its opcode, without the context
  among its parameters.
-/
def Entry.StoredAs
    (k : Opcode)
    (o : Operation) : Entry → Prop
| .operation o₁ => o = o₁
| .routine r =>
    o.name = "OP" ++ Numeral.renderNat k ∧
      o.arity + 1 = r.required.length ∧
      o.action = r.action
| .other _ => False

theorem Entry.storedAs_of_made
    (hMade : entry.made k = some o) :
    entry.StoredAs k o := by
  cases entry with
  | operation o₁ => exact (Option.some.inj hMade).symm
  | routine r =>
      rw [made] at hMade
      split at hMade
      · rename_i hFits
        rw [← Option.some.inj hMade]
        exact
          ⟨rfl, Nat.sub_add_cancel hFits.low, rfl⟩
      · simp at hMade
  | other v => simp [made] at hMade

------------------------------------------------------------
-- Listings
------------------------------------------------------------

theorem mem_opcodes_iff :
    k ∈ t.opcodes ↔ (t.entry k).isSome = true := by
  simp [opcodes, List.mem_filter]

theorem contains_iff :
    t.contains n = true ↔ ∃ k ∈ t.opcodes, n = k.val := by
  rw [contains, find?]
  constructor
  · intro hFound
    cases hOpcode : opcode? n with
    | none => simp [hOpcode] at hFound
    | some k =>
        rw [hOpcode, Option.bind_some] at hFound
        exact
          ⟨k, mem_opcodes_iff.mpr hFound,
            opcode?_eq_some_iff.mp hOpcode⟩
  · rintro ⟨k, hMember, hSame⟩
    rw [opcode?_eq_some_iff.mpr hSame, Option.bind_some]
    exact mem_opcodes_iff.mp hMember

/-
  The table lists its opcodes in order and without gaps, and
  all of them are from 0 to 99, with operations of three
  parameters at most.
-/
structure Listed (t : Table) : Prop where
  increasing : t.opcodes.Pairwise fun j k => j < k
  keys :
    ∀ n,
      t.contains n = true ↔ ∃ k ∈ t.opcodes, n = k.val
  size : t.size = t.opcodes.length
  counts :
    ∀ ks : List Int,
      ks.Nodup → (∀ n, n ∈ ks ↔ t.contains n = true) →
        ks.length = t.size
  range : ∀ n, t.contains n = true → 0 ≤ n ∧ n ≤ 99
  arity : ∀ n o, t.find? n = some o → o.arity ≤ 3

theorem increasing_opcodes
    (t : Table) :
    t.opcodes.Pairwise fun j k => j < k :=
  (List.pairwise_lt_finRange 100).filter _

/- The size is the number of the keys that are contained. -/
theorem length_of_keys
    {ks : List Int}
    (hDistinct : ks.Nodup)
    (hKeys : ∀ n, n ∈ ks ↔ t.contains n = true) :
    ks.length = t.size := by
  have hOpcodes :
      (t.opcodes.map fun k => (k.val : Int)).Nodup := by
    refine t.increasing_opcodes.nodup.map ?_
    intro j k hSame
    exact Fin.ext (Int.ofNat.inj hSame)
  have hPerm :
      ks.Perm (t.opcodes.map fun k => (k.val : Int)) := by
    refine
      (List.perm_ext_iff_of_nodup hDistinct hOpcodes).mpr ?_
    intro n
    rw [hKeys, contains_iff, List.mem_map]
    simp only [eq_comm]
  rw [hPerm.length_eq, List.length_map, size]

/- Every table is listed like this. -/
theorem listed
    (t : Table) :
    t.Listed where
  increasing := t.increasing_opcodes
  keys _ := contains_iff
  size := rfl
  counts _ hDistinct hKeys := length_of_keys hDistinct hKeys
  range n hContains := by
    rcases contains_iff.mp hContains with ⟨k, -, rfl⟩
    omega
  arity _ o _ := o.arity_le

end Table

end IntcodeMachine
