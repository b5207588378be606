import IntcodeMachine.Text.Printable

/-
  This file defines the quoted form of a text, in which
  faults and log messages show a piece of input.

  A text stands in single quotes, or in double quotes if it
  holds a single quote and no double one. A backslash and
  the quote in use are escaped by a backslash, line feed,
  carriage return and tab by a letter, and every other
  unprintable character by its code in hexadecimal.

  Key definitions include:
    * `Text.hexadecimal`
    * `Text.escape`
    * `Text.quote`
-/

------------------------------------------------------------
-- Escapes
------------------------------------------------------------

namespace IntcodeMachine

namespace Text

/- A number in hexadecimal, padded with zeros to a width. -/
def hexadecimal
    (width : Nat)
    (n : Nat) : List Char :=
  let digits := Nat.toDigits 16 n
  List.replicate (width - digits.length) '0' ++ digits

/- The escape of an unprintable character by its code. -/
def escapeCode (c : Char) : List Char :=
  if c.toNat < 0x100 then
    '\\' :: 'x' :: hexadecimal 2 c.toNat
  else if c.toNat < 0x10000 then
    '\\' :: 'u' :: hexadecimal 4 c.toNat
  else
    '\\' :: 'U' :: hexadecimal 8 c.toNat

/- A character inside a text quoted by `mark`. -/
def escape
    (mark : Char)
    (c : Char) : List Char :=
  if c = mark || c = '\\' then ['\\', c]
  else if c = '\n' then ['\\', 'n']
  else if c = '\r' then ['\\', 'r']
  else if c = '\t' then ['\\', 't']
  else if isPrintable c then [c]
  else escapeCode c

------------------------------------------------------------
-- Quoting
------------------------------------------------------------

/- The quote in which a text is shown. -/
def quoteMark (text : List Char) : Char :=
  if text.contains '\'' && !text.contains '"' then '"'
  else '\''

/- A text between quotes, with its escapes. -/
def quoteChars (text : List Char) : List Char :=
  let mark := quoteMark text
  mark :: text.flatMap (escape mark) ++ [mark]

/- The quoted form of a text. -/
def quote (text : String) : String :=
  String.ofList (quoteChars text.toList)

end Text

end IntcodeMachine
