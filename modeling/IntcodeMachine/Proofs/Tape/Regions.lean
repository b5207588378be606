import IntcodeMachine.Proofs.Execution.Fetching
import IntcodeMachine.Tape.Dump
import Mathlib.Algebra.Order.Floor.Div

/-
  This file proves that the rows of a dump tile its region.

  A row starts where the row before it ends, and all rows
  have the same number of cells, but for the last one, which
  ends with the region. So each cell of the region is in one
  row, and the label of the row tells its address.

  Main declarations:
    * `Tape.addresses`
    * `Tape.entries`
    * `Tape.Dump.rowCount`
    * `Tape.Dump.rows_eq`
    * `Tape.Dump.flatMap_entries`
-/

------------------------------------------------------------
-- Addresses In A Row
------------------------------------------------------------

namespace IntcodeMachine

namespace Tape

variable {t : Tape} {first middle stop address : Int}

/- The addresses from a first one up to a stop. -/
def addresses (first stop : Int) : List Int :=
  (List.range (stop - first).toNat).map fun (k : Nat) =>
    first + k

theorem mem_addresses_iff :
    address ∈ addresses first stop ↔
      first ≤ address ∧ address < stop := by
  simp only [addresses, List.mem_map, List.mem_range]
  constructor
  · rintro ⟨k, hBelow, rfl⟩
    omega
  · rintro ⟨hLow, hHigh⟩
    exact ⟨(address - first).toNat, by omega, by omega⟩

theorem addresses_append
    (hLow : first ≤ middle)
    (hHigh : middle ≤ stop) :
    addresses first middle ++ addresses middle stop =
      addresses first stop := by
  have hCount :
      (stop - first).toNat =
        (middle - first).toNat + (stop - middle).toNat := by
    omega
  simp only [addresses]
  rw [hCount, List.range_add, List.map_append, List.map_map]
  congr 1
  refine List.map_congr_left fun k _ => ?_
  rw [Function.comp_apply]
  omega

theorem addresses_self
    (first : Int) :
    addresses first first = [] := by
  simp [addresses]

/- The addresses up to a stop, each with its cell. -/
def entries
    (t : Tape)
    (first stop : Int) : List (Int × Int) :=
  (addresses first stop).map fun a =>
    (a, t.cells.getD a.toNat 0)

theorem entries_append
    (hLow : first ≤ middle)
    (hHigh : middle ≤ stop) :
    t.entries first middle ++ t.entries middle stop =
      t.entries first stop := by
  rw [entries, entries, ← List.map_append,
    addresses_append hLow hHigh, entries]

/- The cells of a region that lies on the tape. -/
theorem slice_eq
    (hFirst : 0 ≤ first)
    (hOrder : first ≤ stop)
    (hStop : stop ≤ t.size) :
    t.slice first stop =
      (addresses first stop).map fun a =>
        t.cells.getD a.toNat 0 := by
  have hSize : t.cells.length = t.size := rfl
  have hStart : t.position first = first.toNat := by
    rw [position, if_neg (by omega)]
    omega
  have hEnd : t.position stop = stop.toNat := by
    rw [position, if_neg (by omega)]
    omega
  rw [slice, hStart, hEnd]
  apply List.ext_getElem
  · simp only [addresses, List.length_drop, List.length_take,
      List.length_map, List.length_range]
    omega
  · intro k hLeft hRight
    have hIndex : (first + (k : Int)).toNat = first.toNat + k := by
      omega
    simp only [List.length_drop, List.length_take] at hLeft
    have hCell : first.toNat + k < t.cells.length := by omega
    simp [addresses, hIndex, List.getD_eq_getElem?_getD,
      List.getElem?_eq_getElem hCell]

theorem readAll_addresses
    (hFirst : 0 ≤ first)
    (hOrder : first ≤ stop)
    (hStop : stop ≤ t.size) :
    t.readAll (addresses first stop) =
      .ok (t.slice first stop) := by
  rw [slice_eq hFirst hOrder hStop]
  refine readAll_of_contains fun a hMember => ?_
  rcases mem_addresses_iff.mp hMember with ⟨hLow, hHigh⟩
  exact ⟨by omega, by omega⟩

theorem read_of_mem_entries
    {e : Int × Int}
    (hFirst : 0 ≤ first)
    (hStop : stop ≤ t.size)
    (hMember : e ∈ t.entries first stop) :
    t.read e.1 = .ok e.2 := by
  rcases List.mem_map.mp hMember with ⟨a, hAddress, rfl⟩
  rcases mem_addresses_iff.mp hAddress with ⟨hLow, hHigh⟩
  exact read_eq_ok_iff.mpr ⟨⟨by omega, by omega⟩, rfl⟩

------------------------------------------------------------
-- Rows Of A Region
------------------------------------------------------------

namespace Dump

variable {start width : Int} {k : Nat}

/- How many rows of a width a region has. -/
def rowCount (start stop width : Int) : Nat :=
  (stop - start).toNat ⌈/⌉ width.toNat

theorem rowCount_of_le
    (hEmpty : stop ≤ start)
    (width : Int) :
    rowCount start stop width = 0 := by
  rw [rowCount, show (stop - start).toNat = 0 by omega]
  exact zero_ceilDiv _

/- The rows cover the region. -/
theorem le_rowCount_mul
    (start stop : Int)
    (hWidth : 1 ≤ width) :
    stop ≤ start + rowCount start stop width * width := by
  have hPositive : 0 < width.toNat := by omega
  have hCover :
      (stop - start).toNat ≤
        width.toNat * rowCount start stop width :=
    le_smul_ceilDiv hPositive
  have hCast :
      ((width.toNat * rowCount start stop width : Nat) : Int) =
        rowCount start stop width * width := by
    rw [Nat.cast_mul, Int.toNat_of_nonneg (by omega),
      Int.mul_comm]
  omega

/- Each row starts in the region. -/
theorem lt_rowCount_iff
    (hWidth : 1 ≤ width) :
    k < rowCount start stop width ↔
      start + k * width < stop := by
  have hPositive : 0 < width.toNat := by omega
  have hCast :
      ((width.toNat * k : Nat) : Int) = k * width := by
    rw [Nat.cast_mul, Int.toNat_of_nonneg (by omega),
      Int.mul_comm]
  have hFew :
      rowCount start stop width ≤ k ↔
        (stop - start).toNat ≤ width.toNat * k :=
    ceilDiv_le_iff_le_smul hPositive
  rw [← not_le, hFew]
  omega

theorem progression_eq
    (start stop : Int)
    (hWidth : 1 ≤ width) :
    progression start stop width =
      (List.range (rowCount start stop width)).map
        fun (k : Nat) => start + k * width := by
  have hStep : 0 < width := by omega
  have hCount :
      ((stop - start + width - 1) / width).toNat =
        rowCount start stop width := by
    refine eq_of_forall_lt_iff fun k => ?_
    rw [lt_rowCount_iff hWidth, Int.lt_toNat,
      ← Int.add_one_le_iff, Int.le_ediv_iff_mul_le hStep,
      Int.add_mul, Int.one_mul]
    omega
  simp only [progression, if_pos hStep, hCount,
    Int.mul_comm width]

/- The row of a region with so many rows before it. -/
def row
    (t : Tape)
    (start stop width : Int)
    (k : Nat) : Row :=
  ⟨start + k * width,
    t.slice (start + k * width)
      (min (start + (k + 1) * width) stop)⟩

theorem rows_eq
    (t : Tape)
    (start stop : Int)
    (hWidth : 1 ≤ width) :
    rows t start stop width =
      (List.range (rowCount start stop width)).map
        (row t start stop width) := by
  rw [rows, progression_eq start stop hWidth, List.map_map]
  refine List.map_congr_left fun k _ => ?_
  rw [Function.comp_apply, row, Int.add_mul, Int.one_mul,
    Int.add_assoc]

/- The cells of a row, each with its address. -/
def Row.entries (row : Row) : List (Int × Int) :=
  row.cells.zipIdx.map fun c => (row.label + c.2, c.1)

theorem entries_slice
    (hFirst : 0 ≤ first)
    (hOrder : first ≤ stop)
    (hStop : stop ≤ t.size) :
    Row.entries ⟨first, t.slice first stop⟩ =
      t.entries first stop := by
  rw [Row.entries, slice_eq hFirst hOrder hStop]
  apply List.ext_getElem
  · simp [entries]
  · intro k _ _
    simp [entries, addresses]

/- The rows are the region, without gap and overlap. -/
theorem flatMap_entries
    (hStart : 0 ≤ start)
    (hOrder : start ≤ stop)
    (hStop : stop ≤ t.size)
    (hWidth : 1 ≤ width) :
    (rows t start stop width).flatMap Row.entries =
      t.entries start stop := by
  have hRows :
      ∀ n ≤ rowCount start stop width,
        (List.range n).flatMap
            (fun k => (row t start stop width k).entries) =
          t.entries start (min (start + n * width) stop) := by
    intro n
    induction n with
    | zero =>
        intro _
        simp [entries, addresses_self, hOrder]
    | succ n ih =>
        intro hCount
        have hInside : start + n * width < stop :=
          (lt_rowCount_iff hWidth).mp (by omega)
        have hNext :
            ((n + 1 : Nat) : Int) * width =
              n * width + width := by
          rw [Nat.cast_succ, Int.add_mul, Int.one_mul]
        have hLow : 0 ≤ (n : Int) * width :=
          Int.mul_nonneg (by omega) (by omega)
        rw [List.range_succ, List.flatMap_append,
          ih (by omega), List.flatMap_singleton, row,
          ← Nat.cast_succ, hNext,
          entries_slice (by omega) (by omega) (by omega),
          show min (start + n * width) stop =
            start + n * width by omega]
        exact entries_append (by omega) (by omega)
  have hCover := le_rowCount_mul start stop hWidth
  rw [rows_eq t start stop hWidth, List.flatMap_map,
    hRows _ (Nat.le_refl _), show
      min (start + rowCount start stop width * width) stop =
        stop by omega]

end Dump

end Tape

end IntcodeMachine
