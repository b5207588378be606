import IntcodeMachine.Numeral
import IntcodeMachine.Text.Blank
import IntcodeMachine.Text.DecimalDigit

/-
  This file defines how integers are read from text.

  There are two grammars. A program token is an optional
  sign and ASCII digits. A typed integer may also have
  blanks around it, digits of any script and single
  underscores between digits. In both, a numeral of more
  than 4300 digits is refused, leading zeros included.

  Key definitions include:
    * `Numeral.Misread`
    * `Numeral.readToken`
    * `Numeral.readTyped`
-/

------------------------------------------------------------
-- Misreadings
------------------------------------------------------------

namespace IntcodeMachine

namespace Numeral

/- Why a text holds no integer. -/
inductive Misread where
| notANumeral
| tooLong (count : Nat)
deriving DecidableEq, Repr

/- The integer of a sign and a magnitude. -/
def signed
    (negative : Bool)
    (magnitude : Nat) : Int :=
  if negative then -(magnitude : Int) else (magnitude : Int)

/- The sign at the start of a text, and what follows it. -/
def splitSign : List Char → Bool × List Char
| '-' :: rest => (true, rest)
| '+' :: rest => (false, rest)
| text => (false, text)

------------------------------------------------------------
-- Program Tokens
------------------------------------------------------------

/- A nonempty text of ASCII digits. -/
def isDigits (text : List Char) : Bool :=
  !text.isEmpty && text.all Char.isDigit

/- Read an optional sign and ASCII digits. -/
def readToken
    (token : List Char) : Except Misread Int :=
  let (negative, body) := splitSign token
  if isDigits body then
    if body.length ≤ maxDigits then
      .ok (signed negative (Nat.ofDigitChars 10 body 0))
    else .error (.tooLong body.length)
  else .error .notANumeral

------------------------------------------------------------
-- Typed Integers
------------------------------------------------------------

/-
  A blank that may stand around a typed integer. The
  information separators may not.
-/
def isMargin (c : Char) : Bool :=
  Text.isBlank c &&
    !(decide (0x1C ≤ c.toNat) && decide (c.toNat ≤ 0x1F))

/- A digit of any script, or an underscore. -/
def isBodyChar (c : Char) : Bool :=
  c = '_' || (Text.digitValue? c).isSome

/- No underscore stands at an end or beside another. -/
def underscoresApart : List Char → Bool
| [] => false
| ['_'] => false
| [_] => true
| '_' :: _ => false
| _ :: '_' :: rest => underscoresApart rest
| _ :: c :: rest => underscoresApart (c :: rest)

/- The magnitude that digits of any script stand for. -/
def magnitude (values : List Nat) : Nat :=
  values.foldl (fun n value => 10 * n + value) 0

/-
  Read a typed integer. The digits up to the first other
  character are counted before what follows is looked at,
  so an overlong numeral is reported as such whatever
  stands behind it.
-/
def readTyped
    (text : List Char) : Except Misread Int :=
  let (negative, rest) :=
    splitSign (text.dropWhile isMargin)
  let body := rest.takeWhile isBodyChar
  let values := body.filterMap Text.digitValue?
  if !underscoresApart body then .error .notANumeral
  else if maxDigits < values.length then
    .error (.tooLong values.length)
  else if (rest.dropWhile isBodyChar).all isMargin then
    .ok (signed negative (magnitude values))
  else .error .notANumeral

end Numeral

end IntcodeMachine
