import IntcodeMachine.Tape

/-
  This file defines the dump of a region of the tape, a
  table with the address of its first cell before each row.

  The region goes from a start up to the end of the tape, or
  for a number of cells at most. A start below zero counts
  from the end when cells are picked, but stays as it is in
  the labels.

  Key definitions include:
    * `Tape.slice`
    * `Tape.Dump.Row`
    * `Tape.Dump.rows`
    * `Tape.dump`
-/

------------------------------------------------------------
-- Slices
------------------------------------------------------------

namespace IntcodeMachine

namespace Tape

/-
  A bound of a slice as a position in the tape. A bound
  below zero counts from the end, and a position beyond
  either end becomes that end.
-/
def position
    (t : Tape)
    (bound : Int) : Nat :=
  if bound < 0 then (bound + t.size).toNat
  else min bound.toNat t.size

/- The cells from one bound up to another. -/
def slice
    (t : Tape)
    (start stop : Int) : List Int :=
  (t.cells.take (t.position stop)).drop (t.position start)

------------------------------------------------------------
-- Rows
------------------------------------------------------------

namespace Dump

/- One row of a dump, with its label. -/
structure Row where
  label : Int
  cells : List Int
deriving DecidableEq, Repr

/- The integers from a start by a step, before a stop. -/
def progression
    (start stop step : Int) : List Int :=
  let count : Nat :=
    if 0 < step then ((stop - start + step - 1) / step).toNat
    else ((start - stop - step - 1) / (-step)).toNat
  (List.range count).map fun (k : Nat) => start + step * k

/- The end of the region. -/
def stop
    (t : Tape)
    (start : Int)
    (length : Option Int) : Int :=
  match length with
  | none => t.size
  | some n => min t.size (start + n)

/- The rows of a region, of one width but for the last. -/
def rows
    (t : Tape)
    (start stop width : Int) : List Row :=
  (progression start stop width).map fun label =>
    ⟨label, t.slice label (min (label + width) stop)⟩

------------------------------------------------------------
-- Columns
------------------------------------------------------------

/- The width of the widest numeral, at least one. -/
def cellWidth (cells : List Int) : Nat :=
  (cells.map fun n => (Numeral.chars n).length).foldl max 1

/- The width of the last address of the region. -/
def labelWidth (stop : Int) : Nat :=
  (Numeral.chars (max (stop - 1) 0)).length

/- A row as text. -/
def renderRow
    (labels cells : Nat)
    (row : Row) : List Char :=
  Text.padStart labels (Numeral.chars row.label) ++
    ':' :: ' ' ::
      Text.join [' ']
        (row.cells.map fun n =>
          Text.padStart cells (Numeral.chars n))

/- All integers that a row shows. -/
def shown (row : Row) : List Int :=
  row.label :: row.cells

end Dump

/- The dump of a region of the tape. -/
def dump
    (t : Tape)
    (start : Int)
    (length : Option Int)
    (width : Int) : Except Failure String :=
  let stop := Dump.stop t start length
  let region := t.slice start stop
  if ¬ Numeral.AllWritable region then
    .error .unwritable
  else if width = 0 then .error .zeroWidth
  else
    let rows := Dump.rows t start stop width
    if Numeral.AllWritable (rows.flatMap Dump.shown) then
      .ok
        (String.ofList
          (Text.join ['\n']
            (rows.map
              (Dump.renderRow (Dump.labelWidth stop)
                (Dump.cellWidth region)))))
    else .error .unwritable

end Tape

end IntcodeMachine
