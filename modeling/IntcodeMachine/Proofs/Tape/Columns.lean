import IntcodeMachine.Proofs.Tape.Dumping
import IntcodeMachine.Proofs.Tape.Regions
import IntcodeMachine.Proofs.Text.Words

/-
  This file proves that the dump of a region shows each of
  its cells once, under its own address.

  A row has its numerals at the right ends of columns: one
  column for the address of its first cell, and one for each
  cell. No numeral shows a colon, a blank or a line feed, so
  that the rows of a dump can be read back.

  Main declarations:
    * `Tape.Dump.Column`
    * `Tape.Dump.Displays`
    * `Tape.Dump.readRow`
    * `Tape.Dump.readEntries`
    * `Tape.dump_region`
-/

------------------------------------------------------------
-- Columns
------------------------------------------------------------

namespace IntcodeMachine

namespace Tape

namespace Dump

variable {t : Tape} {row : Row} {labels cells width : Nat}
variable {n : Int} {ns : List Int} {c : Char}

/- A numeral at the right end of a column. -/
structure Column
    (width : Nat)
    (n : Int)
    (text : List Char) : Prop where
  length : text.length = width
  numeral :
    ∃ blanks,
      text = List.replicate blanks ' ' ++ Numeral.chars n

theorem column_padStart
    (hFits : (Numeral.chars n).length ≤ width) :
    Column width n (Text.padStart width (Numeral.chars n)) where
  length := by
    rw [Text.padStart, List.length_append,
      List.length_replicate]
    omega
  numeral := ⟨_, rfl⟩

/- The column of the cells is as wide as each of them. -/
theorem length_le_cellWidth
    (hMember : n ∈ ns) :
    (Numeral.chars n).length ≤ cellWidth ns := by
  have hBound (lengths : List Nat) :
      ∀ widest,
        widest ≤ lengths.foldl max widest ∧
          ∀ l ∈ lengths, l ≤ lengths.foldl max widest := by
    induction lengths with
    | nil => simp
    | cons l rest ih =>
        intro widest
        rcases ih (max widest l) with ⟨hStart, hRest⟩
        rw [List.foldl_cons, List.forall_mem_cons]
        exact ⟨by omega, by omega, hRest⟩
  exact (hBound _ 1).2 _ (List.mem_map_of_mem hMember)

/- The column of the labels is as wide as each of them. -/
theorem length_le_labelWidth
    {label stop : Int}
    (hLow : 0 ≤ label)
    (hHigh : label < stop) :
    (Numeral.chars label).length ≤ labelWidth stop := by
  have hLabel :
      Numeral.chars label = Numeral.digits label.natAbs :=
    if_neg (by omega)
  have hLast :
      Numeral.chars (max (stop - 1) 0) =
        Numeral.digits (max (stop - 1) 0).natAbs :=
    if_neg (by omega)
  rw [labelWidth, hLabel, hLast]
  have hPositive :
      0 < (Numeral.digits (max (stop - 1) 0).natAbs).length :=
    List.length_pos_iff.mpr (Numeral.allDigits_digits _).1
  rw [Numeral.length_digits_le_iff hPositive]
  refine Nat.lt_of_le_of_lt ?_
    ((Numeral.length_digits_le_iff hPositive).mp
      (Nat.le_refl _))
  omega

------------------------------------------------------------
-- Rows Read Back
------------------------------------------------------------

/- The integers of a text with blanks between them. -/
def readNumerals (text : List Char) : Option (List Int) :=
  (Text.words text).mapM fun token =>
    (Numeral.readToken token).toOption

/- The label and the cells of a row, around the colon. -/
def readRow (line : List Char) : Option Row :=
  match Text.pieces ':' line with
  | [label, cells] =>
      match readNumerals label, readNumerals cells with
      | some [n], some ns => some ⟨n, ns⟩
      | _, _ => none
  | _ => none

/- The cells that the lines of a text show, with addresses. -/
def readEntries
    (text : List Char) : Option (List (Int × Int)) :=
  ((Text.pieces '\n' text).mapM readRow).map fun rows =>
    rows.flatMap Row.entries

/- Numerals are read back from columns between blanks. -/
theorem readNumerals_columns
    (hWritable : Numeral.AllWritable ns)
    (width : Nat) :
    readNumerals
        (Text.join [' ']
          (ns.map fun n =>
            Text.padStart width (Numeral.chars n))) =
      some ns := by
  rw [readNumerals, Text.words_join, List.flatMap_map]
  simp only [Text.words_padStart, Numeral.words_chars]
  induction ns with
  | nil => rfl
  | cons n rest ih =>
      rcases List.forall_mem_cons.mp hWritable with
        ⟨hFirst, hRest⟩
      rw [List.flatMap_cons, List.singleton_append,
        List.mapM_cons, Numeral.readToken_chars hFirst,
        ih hRest]
      rfl

theorem readNumerals_column
    (hWritable : Numeral.Writable n)
    (width : Nat) :
    readNumerals
        (Text.padStart width (Numeral.chars n)) =
      some [n] := by
  have hRead :=
    readNumerals_columns
      (List.forall_mem_singleton.mpr hWritable) width
  rwa [List.map_singleton, Text.join,
    List.intercalate_singleton] at hRead

/- Columns show blanks, digits and minus signs alone. -/
theorem not_mem_column
    (hForeign : c ≠ ' ' ∧ c ≠ '-' ∧ c.isDigit = false) :
    c ∉ Text.padStart width (Numeral.chars n) := by
  intro hMember
  rcases Text.mem_padStart hMember with hSame | hMember
  · exact hForeign.1 hSame
  · exact Numeral.not_mem_chars hForeign.2 n hMember

theorem not_mem_columns
    (hForeign : c ≠ ' ' ∧ c ≠ '-' ∧ c.isDigit = false) :
    c ∉
      Text.join [' ']
        (ns.map fun n =>
          Text.padStart width (Numeral.chars n)) := by
  intro hMember
  rcases Text.mem_join hMember with hSame | ⟨part, hPart, hIn⟩
  · exact hForeign.1 (List.mem_singleton.mp hSame)
  · rcases List.mem_map.mp hPart with ⟨n, -, rfl⟩
    exact not_mem_column hForeign hIn

/- A row is read back from its text. -/
theorem readRow_renderRow
    (hShown : Numeral.AllWritable (shown row)) :
    readRow (renderRow labels cells row) = some row := by
  rcases List.forall_mem_cons.mp hShown with
    ⟨hLabel, hCells⟩
  have hLabelApart :
      ':' ∉ Text.padStart labels (Numeral.chars row.label) :=
    not_mem_column (by decide)
  have hCellsApart :
      ':' ∉
        ' ' ::
          Text.join [' ']
            (row.cells.map fun n =>
              Text.padStart cells (Numeral.chars n)) := by
    rw [List.mem_cons, not_or]
    exact ⟨by decide, not_mem_columns (by decide)⟩
  have hWords :
      readNumerals
          (' ' ::
            Text.join [' ']
              (row.cells.map fun n =>
                Text.padStart cells (Numeral.chars n))) =
        some row.cells := by
    rw [← readNumerals_columns hCells cells, readNumerals,
      readNumerals]
    exact congrArg _ (Text.words_append [] _)
  rw [readRow, renderRow, Text.pieces_append_cons,
    Text.pieces_of_not_mem hLabelApart,
    Text.pieces_of_not_mem hCellsApart, List.singleton_append]
  simp only [readNumerals_column hLabel, hWords]

/- A row is one line. -/
theorem not_mem_renderRow :
    '\n' ∉ renderRow labels cells row := by
  rw [renderRow, List.mem_append, List.mem_cons,
    List.mem_cons]
  rintro (hLabel | hColon | hBlank | hCells)
  · exact not_mem_column (by decide) hLabel
  · exact absurd hColon (by decide)
  · exact absurd hBlank (by decide)
  · exact not_mem_columns (by decide) hCells

theorem pieces_rows
    {rows : List Row}
    (hRows : rows ≠ []) :
    Text.pieces '\n'
        (Text.join ['\n']
          (rows.map (renderRow labels cells))) =
      rows.map (renderRow labels cells) := by
  refine Text.pieces_join (by simpa using hRows) ?_
  rw [List.forall_mem_map]
  exact fun row _ => not_mem_renderRow

/- Rows are read back from their texts, one after another. -/
theorem mapM_readRow
    {rows : List Row}
    (hShown : Numeral.AllWritable (rows.flatMap shown)) :
    (rows.map (renderRow labels cells)).mapM readRow =
      some rows := by
  induction rows with
  | nil => rfl
  | cons row rest ih =>
      rw [List.flatMap_cons] at hShown
      have hFirst : Numeral.AllWritable (shown row) :=
        fun n hMember =>
          hShown n (List.mem_append_left _ hMember)
      have hRest :
          Numeral.AllWritable (rest.flatMap shown) :=
        fun n hMember =>
          hShown n (List.mem_append_right _ hMember)
      rw [List.map_cons, List.mapM_cons,
        readRow_renderRow hFirst, ih hRest]
      rfl

/- The cells of rows are read back from their lines. -/
theorem readEntries_rows
    {rows : List Row}
    (hRows : rows ≠ [])
    (hShown : Numeral.AllWritable (rows.flatMap shown)) :
    readEntries
        (Text.join ['\n']
          (rows.map (renderRow labels cells))) =
      some (rows.flatMap Row.entries) := by
  rw [readEntries, pieces_rows hRows, mapM_readRow hShown]
  rfl

------------------------------------------------------------
-- Dumps Of A Region
------------------------------------------------------------

/-
  The line shows the cells from a first address up to a
  stop, behind the first address, in columns of two widths.
-/
def Displays
    (t : Tape)
    (labels cells : Nat)
    (first stop : Int)
    (line : List Char) : Prop :=
  ∃ label columns ns,
    t.readAll (addresses first stop) = .ok ns ∧
      line = label ++ ':' :: ' ' :: Text.join [' '] columns ∧
      Column labels first label ∧
      List.Forall₂ (Column cells) ns columns

variable {start stop width : Int}

theorem displays_renderRow
    (hStart : 0 ≤ start)
    (hStop : stop ≤ t.size)
    (hWidth : 1 ≤ width)
    {k : Nat}
    (hRow : k < rowCount start stop width) :
    Displays t (labelWidth stop)
      (cellWidth (t.slice start stop))
      (start + k * width)
      (min (start + (k + 1) * width) stop)
      (renderRow (labelWidth stop)
        (cellWidth (t.slice start stop))
        (Dump.row t start stop width k)) := by
  have hInside := (lt_rowCount_iff hWidth).mp hRow
  have hNext : ((k : Int) + 1) * width = k * width + width := by
    rw [Int.add_mul, Int.one_mul]
  have hLow : 0 ≤ (k : Int) * width :=
    Int.mul_nonneg (by omega) (by omega)
  have hCells :
      ∀ n ∈ (Dump.row t start stop width k).cells,
        n ∈ t.slice start stop := by
    intro n hMember
    rw [Dump.row, slice_eq (by omega) (by omega) (by omega)]
      at hMember
    rcases List.mem_map.mp hMember with ⟨a, hAddress, rfl⟩
    rw [slice_eq hStart (by omega) hStop]
    refine List.mem_map_of_mem (mem_addresses_iff.mpr ?_)
    have hBounds := mem_addresses_iff.mp hAddress
    omega
  refine
    ⟨_, _, (Dump.row t start stop width k).cells, ?_, rfl, ?_,
      ?_⟩
  · exact readAll_addresses (by omega) (by omega) (by omega)
  · exact
      column_padStart
        (length_le_labelWidth (by omega) hInside)
  · rw [List.forall₂_map_right_iff, List.forall₂_same]
    exact fun n hMember =>
      column_padStart (length_le_cellWidth (hCells n hMember))

/- A tape that can be shown as a whole shows its rows. -/
theorem allWritable_rows
    (hShowable : t.Showable)
    (hStart : 0 ≤ start)
    (hStop : stop ≤ t.size)
    (hWidth : 1 ≤ width) :
    Numeral.AllWritable
      ((rows t start stop width).flatMap shown) := by
  intro n hMember
  rcases List.mem_flatMap.mp hMember with ⟨row, hRow, hShown⟩
  rw [rows_eq t start stop hWidth] at hRow
  rcases List.mem_map.mp hRow with ⟨k, hCount, rfl⟩
  have hInside :=
    (lt_rowCount_iff hWidth).mp (List.mem_range.mp hCount)
  have hLow : 0 ≤ (k : Int) * width :=
    Int.mul_nonneg (by omega) (by omega)
  rcases List.mem_cons.mp hShown with rfl | hCell
  · have hSize := hShowable.size
    rw [Numeral.Writable, Dump.row]
    dsimp only
    omega
  · exact hShowable.cells n (mem_of_mem_slice hCell)

end Dump

variable {t : Tape} {start stop width : Int}

/- The text of a dump, if the tape can be shown. -/
theorem dump_eq
    (hShowable : t.Showable)
    (hStart : 0 ≤ start)
    (hWidth : 1 ≤ width)
    (length : Option Int) :
    t.dump start length width =
      .ok
        (String.ofList
          (Text.join ['\n']
            ((Dump.rows t start (Dump.stop t start length)
                width).map
              (Dump.renderRow
                (Dump.labelWidth (Dump.stop t start length))
                (Dump.cellWidth
                  (t.slice start
                    (Dump.stop t start length))))))) := by
  have hStop : Dump.stop t start length ≤ t.size := by
    cases length with
    | none => exact Int.le_refl _
    | some n => exact Int.min_le_left _ _
  have hRegion :
      Numeral.AllWritable
        (t.slice start (Dump.stop t start length)) :=
    fun n hMember =>
      hShowable.cells n (mem_of_mem_slice hMember)
  have hNonzero : ¬ width = 0 := by omega
  unfold dump
  dsimp only
  rw [if_neg (not_not_intro hRegion), if_neg hNonzero,
    if_pos
      (Dump.allWritable_rows hShowable hStart hStop hWidth)]

/-
  A dump from a start that is not negative, in rows of at
  least one cell, ends with the tape or after the given
  number of cells. It is empty if the end is not behind the
  start. Otherwise each line shows the next cells of the
  region, and from all lines together, each address of the
  region is read back once, in order, with its cell. The
  addresses must have few enough digits to be shown, as
  those of any list in a computer have.
-/
theorem dump_region
    (hShowable : t.Showable)
    (hStart : 0 ≤ start)
    (hWidth : 1 ≤ width)
    (length : Option Int)
    (hStop :
      stop =
        match length with
        | none => (t.size : Int)
        | some n => min (t.size : Int) (start + n)) :
    (stop ≤ start →
      t.dump start length width = .ok "") ∧
    (start < stop →
      ∃ text labels cells,
        t.dump start length width =
          .ok (String.ofList text) ∧
        (Text.pieces '\n' text).length =
          (stop - start).toNat ⌈/⌉ width.toNat ∧
        (∀ (k : Nat) line,
          (Text.pieces '\n' text)[k]? = some line →
            Dump.Displays t labels cells
              (start + k * width)
              (min (start + (k + 1) * width) stop) line) ∧
        ∃ entries,
          Dump.readEntries text = some entries ∧
            entries.map Prod.fst = addresses start stop ∧
            ∀ e ∈ entries, t.read e.1 = .ok e.2) := by
  have hDump := dump_eq hShowable hStart hWidth length
  have hSame : Dump.stop t start length = stop := by
    rw [hStop]
    cases length <;> rfl
  have hSize : stop ≤ t.size := by
    rw [hStop]
    split <;> omega
  rw [hSame] at hDump
  have hRowsEq := Dump.rows_eq t start stop hWidth
  constructor
  · intro hEmpty
    rw [hDump, hRowsEq, Dump.rowCount_of_le hEmpty]
    rfl
  · intro hOrder
    have hFirst : 0 < Dump.rowCount start stop width :=
      (Dump.lt_rowCount_iff hWidth).mpr (by simpa using hOrder)
    have hRows : Dump.rows t start stop width ≠ [] := by
      rw [hRowsEq]
      simpa using Nat.ne_of_gt hFirst
    refine
      ⟨_, Dump.labelWidth stop,
        Dump.cellWidth (t.slice start stop), hDump, ?_, ?_,
        t.entries start stop, ?_, ?_, ?_⟩
    · rw [Dump.pieces_rows hRows, List.length_map, hRowsEq,
        List.length_map, List.length_range, Dump.rowCount]
    · intro k line hLine
      rw [Dump.pieces_rows hRows, hRowsEq, List.map_map,
        List.getElem?_map, Option.map_eq_some_iff] at hLine
      rcases hLine with ⟨j, hRow, rfl⟩
      rcases List.getElem?_eq_some_iff.mp hRow with
        ⟨hCount, rfl⟩
      rw [List.length_range] at hCount
      rw [List.getElem_range]
      exact Dump.displays_renderRow hStart hSize hWidth hCount
    · rw [Dump.readEntries_rows hRows
          (Dump.allWritable_rows hShowable hStart hSize hWidth),
        Dump.flatMap_entries hStart (by omega) hSize hWidth]
    · rw [entries, List.map_map]
      exact List.map_id _
    · exact fun e hMember =>
        read_of_mem_entries hStart hSize hMember

/- A region of four cells, cut off by the end of the tape. -/
theorem tail_dump_region :
    ∃ text labels cells,
      (Tape.mk [10, -7, 300, 4, 55]).dump 1 (some 9) 3 =
          .ok (String.ofList text) ∧
        (Text.pieces '\n' text).length = 2 ∧
        (∀ (k : Nat) line,
          (Text.pieces '\n' text)[k]? = some line →
            Dump.Displays ⟨[10, -7, 300, 4, 55]⟩ labels cells
              (1 + k * 3) (min (1 + (k + 1) * 3) 5) line) ∧
        ∃ entries,
          Dump.readEntries text = some entries ∧
            entries.map Prod.fst = [1, 2, 3, 4] ∧
            ∀ e ∈ entries,
              (Tape.mk [10, -7, 300, 4, 55]).read e.1 =
                .ok e.2 := by
  have hCells : Numeral.AllWritable [10, -7, 300, 4, 55] :=
    Numeral.allWritable_of_lt (by decide)
  have hSize :
      (Tape.mk [10, -7, 300, 4, 55]).size ≤ Numeral.ceiling :=
    Nat.le_of_lt (Numeral.lt_ceiling_of_lt_ten (by decide))
  exact
    (dump_region ⟨hCells, hSize⟩ (by decide) (by decide)
      (some 9) rfl).2 (by decide)

end Tape

end IntcodeMachine
