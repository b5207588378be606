/-
  This file defines how integers are written in decimal.

  A numeral is a minus sign for a negative integer and then
  the digits, without leading zeros. Integers of more than
  4300 digits cannot be written.

  Key definitions include:
    * `Numeral.chars`
    * `Numeral.render`
    * `Numeral.Writable`
-/

------------------------------------------------------------
-- Digits
------------------------------------------------------------

namespace IntcodeMachine

namespace Numeral

/- The most digits that a numeral may have. -/
def maxDigits : Nat := 4300

/- The least magnitude with too many digits. -/
def ceiling : Nat := Nat.pow 10 maxDigits

/- The decimal digits of a magnitude. -/
def digits (n : Nat) : List Char :=
  Nat.toDigits 10 n

/- The decimal numeral of an integer. -/
def chars (n : Int) : List Char :=
  if n < 0 then '-' :: digits n.natAbs else digits n.natAbs

/- The decimal numeral of an integer, as a string. -/
def render (n : Int) : String :=
  String.ofList (chars n)

/- The decimal numeral of a count, as a string. -/
def renderNat (n : Nat) : String :=
  String.ofList (digits n)

------------------------------------------------------------
-- The Digit Limit
------------------------------------------------------------

/- The integer has few enough digits to be written. -/
def Writable (n : Int) : Prop :=
  n.natAbs < ceiling

instance (n : Int) : Decidable (Writable n) := by
  unfold Writable
  infer_instance

/- Every integer of a list can be written. -/
def AllWritable (ns : List Int) : Prop :=
  ∀ n ∈ ns, Writable n

instance (ns : List Int) : Decidable (AllWritable ns) := by
  unfold AllWritable
  infer_instance

end Numeral

end IntcodeMachine
