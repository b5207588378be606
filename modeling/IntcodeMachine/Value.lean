import IntcodeMachine.Decimal.Shortest
import IntcodeMachine.Numeral.Reader
import IntcodeMachine.Text.Lines
import IntcodeMachine.Text.Quoted

/-
  This file defines the values that a host may hand over
  where the machine expects an integer, an opcode or a
  control signal.

  A value has a written form, in which faults show it, and
  may stand for an integer. A float is written with the
  fewest digits that identify it, positionally from 0.0001
  up to below 10 ^ 16 and with a signed exponent of at least
  two digits elsewhere.

  Key definitions include:
    * `Value`
    * `Value.kind`
    * `Value.Writable`
    * `Value.render`
-/

------------------------------------------------------------
-- Values
------------------------------------------------------------

namespace IntcodeMachine

/- A value from the host. -/
inductive Value where
| none
| bool (b : Bool)
| int (n : Int)
| float (x : Float)
| text (s : String)
| list (items : List Value)

namespace Value

/- The name of a value's kind. -/
def kind : Value → String
| .none => "NoneType"
| .bool _ => "bool"
| .int _ => "int"
| .float _ => "float"
| .text _ => "str"
| .list _ => "list"

/- Every integer in the value can be written. -/
def isWritable : Value → Bool
| .int n => decide (Numeral.Writable n)
| .list items => allWritable items
| _ => true
where
  allWritable : List Value → Bool
  | [] => true
  | item :: rest => isWritable item && allWritable rest

------------------------------------------------------------
-- Floats
------------------------------------------------------------

/- A decimal with its point, or with an exponent. -/
def renderDecimal (d : Decimal) : List Char :=
  let digits := Numeral.digits d.digits
  let point := (digits.length : Int) + d.exponent
  if -4 < point ∧ point ≤ 16 then
    if point ≤ 0 then
      '0' :: '.' ::
        List.replicate (-point).toNat '0' ++ digits
    else
      let whole := digits.take point.toNat
      let part := digits.drop point.toNat
      whole ++ List.replicate (point.toNat - whole.length) '0'
        ++ '.' :: (if part.isEmpty then ['0'] else part)
  else
    let exponent := point - 1
    let size := Numeral.digits exponent.natAbs
    digits.take 1 ++
      (if digits.length = 1 then []
        else '.' :: digits.drop 1) ++
      'e' :: (if exponent < 0 then '-' else '+') ::
        List.replicate (2 - size.length) '0' ++ size

/- The written form of a float. -/
def renderFloat (x : Float) : String :=
  if x.isNaN then "nan"
  else
    let sign := if x.toBits.toNat < Nat.pow 2 63 then [] else ['-']
    let size :=
      if x.isInf then ['i', 'n', 'f']
      else if x == 0 then ['0', '.', '0']
      else
        renderDecimal
          (Decimal.Interval.ofBits x.toBits).shortest
    String.ofList (sign ++ size)

/-
  The integer part of a finite float, rounded toward zero.
-/
def truncateFloat (x : Float) : Int :=
  let i := Decimal.Interval.ofBits x.toBits
  Numeral.signed (Nat.pow 2 63 ≤ x.toBits.toNat) (i.mid / i.unit)

------------------------------------------------------------
-- Written Forms
------------------------------------------------------------

/- The written form of a value. -/
def render : Value → String
| .none => "None"
| .bool true => "True"
| .bool false => "False"
| .int n => Numeral.render n
| .float x => renderFloat x
| .text s => Text.quote s
| .list items =>
    "[" ++ Text.joinStrings ", " (renderAll items) ++ "]"
where
  renderAll : List Value → List String
  | [] => []
  | item :: rest => render item :: renderAll rest

end Value

end IntcodeMachine
