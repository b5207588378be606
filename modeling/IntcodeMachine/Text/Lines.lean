/-
  This file defines how a text is cut at a character, how
  pieces are joined again, and the lines of a text.

  Key definitions include:
    * `Text.pieces`
    * `Text.join`
    * `Text.lines`
    * `Text.padStart`
    * `Text.padEnd`
-/

------------------------------------------------------------
-- Pieces
------------------------------------------------------------

namespace IntcodeMachine

namespace Text

/-
  The pieces of a text between the occurrences of a
  character. There is one piece more than occurrences.
-/
def pieces
    (mark : Char) :
    List Char → List (List Char)
| [] => [[]]
| c :: rest =>
    match pieces mark rest with
    | [] => [[c]]
    | piece :: more =>
        if c = mark then [] :: piece :: more
        else (c :: piece) :: more

/- Texts one after the other, with a separator between. -/
def join
    (separator : List Char)
    (parts : List (List Char)) : List Char :=
  List.intercalate separator parts

/- Strings one after the other, with a separator between. -/
def joinStrings
    (separator : String)
    (parts : List String) : String :=
  String.ofList
    (join separator.toList (parts.map String.toList))

------------------------------------------------------------
-- Lines
------------------------------------------------------------

/-
  The lines of a text, each without its line feed. What
  follows the last line feed is a line unless it is empty.
-/
def lines (text : String) : List String :=
  let parts := pieces '\n' text.toList
  let full :=
    if parts.getLast? = some [] then parts.dropLast
    else parts
  full.map String.ofList

------------------------------------------------------------
-- Columns
------------------------------------------------------------

/- A text moved to the right end of a column. -/
def padStart
    (width : Nat)
    (text : List Char) : List Char :=
  List.replicate (width - text.length) ' ' ++ text

/- A text at the left end of a column. -/
def padEnd
    (width : Nat)
    (text : List Char) : List Char :=
  text ++ List.replicate (width - text.length) ' '

end Text

end IntcodeMachine
