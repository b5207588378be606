import IntcodeMachine.Tape.Dump

/-
  This file says which tapes can be dumped as a whole, in
  rows of eight cells.

  The dump shows every cell, and the address of the first
  cell of each row. These addresses are the multiples of
  eight below the size of the tape. The least integer that
  cannot be shown is a multiple of eight itself, so that the
  addresses can be shown if the tape is not larger than that.

  Main declarations:
    * `Tape.Showable`
    * `Tape.dump_cases`
-/

------------------------------------------------------------
-- Rows Of A Whole Tape
------------------------------------------------------------

namespace IntcodeMachine

/- Eight divides the least integer that cannot be shown. -/
theorem Numeral.eight_dvd_ceiling :
    8 ∣ ceiling := by
  have hThousand : 8 ∣ Nat.pow 10 3 := by decide
  have hPower (n : Nat) (hDigits : 3 ≤ n) :
      8 ∣ Nat.pow 10 n :=
    Nat.dvd_trans hThousand (Nat.pow_dvd_pow 10 hDigits)
  unfold ceiling
  exact hPower maxDigits (by decide)

namespace Tape

variable {t : Tape}

/- All cells, and the addresses of rows of eight, can be shown. -/
structure Showable (t : Tape) : Prop where
  cells : Numeral.AllWritable t.cells
  size : t.size ≤ Numeral.ceiling

/- From the start to the size, a slice is the whole tape. -/
theorem slice_whole
    (t : Tape) :
    t.slice 0 t.size = t.cells := by
  have hStart : t.position 0 = 0 := by simp [position]
  have hStop : t.position t.size = t.cells.length := by
    have hLow : ¬ (t.size : Int) < 0 := by omega
    rw [position, if_neg hLow, Int.toNat_natCast, Nat.min_self]
    rfl
  rw [slice, hStart, hStop, List.take_length, List.drop_zero]

/- A slice holds cells of the tape. -/
theorem mem_of_mem_slice
    {start stop n : Int}
    (hMember : n ∈ t.slice start stop) :
    n ∈ t.cells :=
  List.mem_of_mem_take (List.mem_of_mem_drop hMember)

namespace Dump

/- The labels of the rows are multiples of eight. -/
theorem mem_progression_iff
    {size : Nat}
    {label : Int} :
    label ∈ progression 0 size 8 ↔
      ∃ k : Nat, label = 8 * k ∧ 8 * k < size := by
  have hStep : (0 : Int) < 8 := by decide
  have hCount :
      ∀ k : Nat,
        k < (((size : Int) - 0 + 8 - 1) / 8).toNat ↔
          8 * k < size := by
    intro k
    omega
  simp only [progression, if_pos hStep, List.mem_map,
    List.mem_range, hCount]
  constructor
  · rintro ⟨k, hBelow, rfl⟩
    exact ⟨k, by omega, hBelow⟩
  · rintro ⟨k, rfl, hBelow⟩
    exact ⟨k, hBelow, by omega⟩

/- With its cells, a tape shows the labels of its rows. -/
theorem allWritable_rows_iff
    (hCells : Numeral.AllWritable t.cells) :
    Numeral.AllWritable
        ((rows t 0 t.size 8).flatMap shown) ↔
      ∀ k, 8 * k < t.size → 8 * k < Numeral.ceiling := by
  constructor
  · intro hShown k hBelow
    have hLabel : ((8 * k : Nat) : Int) ∈ progression 0 t.size 8 :=
      mem_progression_iff.mpr ⟨k, by omega, hBelow⟩
    have hWritable :=
      hShown _
        (List.mem_flatMap.mpr
          ⟨_, List.mem_map_of_mem hLabel, List.mem_cons_self⟩)
    rw [Numeral.Writable, Int.natAbs_natCast] at hWritable
    exact hWritable
  · intro hLabels n hMember
    rcases List.mem_flatMap.mp hMember with
      ⟨row, hRow, hShown⟩
    rcases List.mem_map.mp hRow with ⟨label, hLabel, rfl⟩
    rcases List.mem_cons.mp hShown with rfl | hCell
    · rcases mem_progression_iff.mp hLabel with
        ⟨k, rfl, hBelow⟩
      have hAbs : (8 * (k : Int)).natAbs = 8 * k := by omega
      rw [Numeral.Writable, hAbs]
      exact hLabels k hBelow
    · exact hCells n (mem_of_mem_slice hCell)

end Dump

------------------------------------------------------------
-- Dumps Of A Whole Tape
------------------------------------------------------------

/- All labels can be shown if the tape is not too large. -/
theorem labels_writable_iff
    (size : Nat) :
    (∀ k, 8 * k < size → 8 * k < Numeral.ceiling) ↔
      size ≤ Numeral.ceiling := by
  rcases Numeral.eight_dvd_ceiling with ⟨q, hCeiling⟩
  rw [hCeiling]
  constructor
  · intro hLabels
    refine Nat.le_of_not_lt fun hLarge => ?_
    exact Nat.lt_irrefl _ (hLabels q hLarge)
  · exact fun hSize k hBelow => Nat.lt_of_lt_of_le hBelow hSize

/- A tape is dumped, unless it cannot be shown. -/
theorem dump_cases
    (t : Tape) :
    (t.Showable ∧ ∃ text, t.dump 0 none 8 = .ok text) ∨
      (¬ t.Showable ∧
        t.dump 0 none 8 = .error .unwritable) := by
  have hWidth : ¬ (8 : Int) = 0 := by decide
  simp only [dump, Dump.stop, slice_whole]
  by_cases hCells : Numeral.AllWritable t.cells
  · have hRows := Dump.allWritable_rows_iff hCells
    rw [labels_writable_iff] at hRows
    rw [if_neg (not_not_intro hCells), if_neg hWidth]
    by_cases hSize : t.size ≤ Numeral.ceiling
    · rw [if_pos (hRows.mpr hSize)]
      exact Or.inl ⟨⟨hCells, hSize⟩, _, rfl⟩
    · rw [if_neg fun hShown => hSize (hRows.mp hShown)]
      exact Or.inr ⟨fun hShowable => hSize hShowable.size, rfl⟩
  · rw [if_pos hCells]
    exact Or.inr ⟨fun hShowable => hCells hShowable.cells, rfl⟩

end Tape

end IntcodeMachine
