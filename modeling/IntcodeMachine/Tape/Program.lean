import IntcodeMachine.Tape

/-
  This file defines the text of a program, and how it is
  read onto a tape and written back.

  The text is cut at a delimiter of one character. Blanks
  around the text and around each piece are ignored; what is
  left of a piece is an optional sign and ASCII digits. The
  first piece of any other form is reported. In the text
  that is written, there is a delimiter between the numerals
  of neighbouring cells and nothing else.

  Key definitions include:
    * `Tape.tokens`
    * `Tape.parse`
    * `Tape.serialize`
-/

------------------------------------------------------------
-- Reading
------------------------------------------------------------

namespace IntcodeMachine

namespace Tape

/- The delimiter of a program, unless another is given. -/
def standardDelimiter : String := ","

/- The tokens of a program text, cut at a delimiter. -/
def tokens
    (mark : Char)
    (text : List Char) : List (List Char) :=
  (Text.pieces mark (Text.strip text)).map Text.strip

/- What is wrong with a token that was misread. -/
def defect : Numeral.Misread → TokenDefect
| .notANumeral => .notDecimal
| .tooLong count => .tooLong count

/- The integers of tokens, counted from an index. -/
def cellsOfTokens :
    Nat → List (List Char) → Except Fault (List Int)
| _, [] => .ok []
| index, token :: rest =>
    match Numeral.readToken token with
    | .error misread =>
        .error
          (.badToken index (String.ofList token)
            (defect misread))
    | .ok n =>
        match cellsOfTokens (index + 1) rest with
        | .error f => .error f
        | .ok ns => .ok (n :: ns)

/- The tape of a program text, cut at one character. -/
def parseAt
    (mark : Char)
    (text : List Char) : Except Fault Tape :=
  if Text.AllBlank text then .error .emptyProgram
  else
    match cellsOfTokens 0 (tokens mark text) with
    | .error f => .error f
    | .ok ns => .ok ⟨ns⟩

/- The tape of a program text. -/
def parse
    (text : String)
    (delimiter : String) : Except Failure Tape :=
  match delimiter.toList with
  | [mark] =>
      match parseAt mark text.toList with
      | .error f => .error (.fault f)
      | .ok t => .ok t
  | _ => .error (.delimiterLength delimiter)

------------------------------------------------------------
-- Writing
------------------------------------------------------------

/- The numerals of the cells, with a separator between. -/
def serializeChars
    (separator : List Char)
    (t : Tape) : List Char :=
  Text.join separator (t.cells.map Numeral.chars)

/- The program text of a tape. -/
def serialize
    (t : Tape)
    (delimiter : String) : Except Failure String :=
  if Numeral.AllWritable t.cells then
    .ok
      (String.ofList (serializeChars delimiter.toList t))
  else .error .unwritable

end Tape

end IntcodeMachine
