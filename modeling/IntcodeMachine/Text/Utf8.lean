import IntcodeMachine.Text.Quoted

/-
  This file defines how UTF-8 is decoded.

  A first octet fixes how many octets are owed after it, and
  the range of the next; all later ones lie from 0x80 to
  0xBF. Surrogates, overlong forms and code points beyond
  U+10FFFF have no encoding. The first octets that cannot be
  decoded are reported with the reason.

  Key definitions include:
    * `Utf8.Defect`
    * `Utf8.decode`
    * `Utf8.Defect.message`
    * `Text.unifyLineEnds`
-/

------------------------------------------------------------
-- Defects
------------------------------------------------------------

namespace IntcodeMachine

namespace Utf8

/- Why octets cannot be decoded. -/
inductive Reason where
| invalidStart
| invalidContinuation
| endOfData
deriving DecidableEq, Repr

/- Octets that cannot be decoded. -/
structure Defect where
  reason : Reason
  /- The position of the first of them. -/
  start : Nat
  /- The position behind the last of them. -/
  stop : Nat
  /- The value of the first of them. -/
  octet : Nat
deriving DecidableEq, Repr

/- The words for a reason. -/
def Reason.message : Reason → String
| .invalidStart => "invalid start byte"
| .invalidContinuation => "invalid continuation byte"
| .endOfData => "unexpected end of data"

/- The words for which octets are meant. -/
def Defect.place (d : Defect) : String :=
  let start := String.ofList (Nat.toDigits 10 d.start)
  if d.stop = d.start + 1 then
    "byte 0x" ++
      String.ofList (Text.hexadecimal 2 d.octet) ++
      " in position " ++ start
  else
    "bytes in position " ++ start ++ "-" ++
      String.ofList (Nat.toDigits 10 (d.stop - 1))

/- The words for a defect. -/
def Defect.message (d : Defect) : String :=
  "'utf-8' codec can't decode " ++ d.place ++ ": " ++
    d.reason.message

------------------------------------------------------------
-- Decoding
------------------------------------------------------------

/- A character of which some octets are still owed. -/
structure Pending where
  /- The position of its first octet. -/
  start : Nat
  /- The value of its first octet. -/
  octet : Nat
  /- How many octets are owed after the next one. -/
  owed : Nat
  /- The least value of the next octet. -/
  low : Nat
  /- The greatest value of the next octet. -/
  high : Nat
  /- The bits of the code point so far. -/
  bits : Nat

/- The character that an octet at a position begins. -/
def begin?
    (position octet : Nat) : Option Pending :=
  if octet < 0xC2 then none
  else if octet < 0xE0 then
    some ⟨position, octet, 0, 0x80, 0xBF, octet - 0xC0⟩
  else if octet < 0xF0 then
    some
      ⟨position, octet, 1,
        if octet = 0xE0 then 0xA0 else 0x80,
        if octet = 0xED then 0x9F else 0xBF,
        octet - 0xE0⟩
  else if octet < 0xF5 then
    some
      ⟨position, octet, 2,
        if octet = 0xF0 then 0x90 else 0x80,
        if octet = 0xF4 then 0x8F else 0xBF,
        octet - 0xF0⟩
  else none

/- The defect of a character that cannot be completed. -/
def Pending.defect
    (p : Pending)
    (reason : Reason)
    (stop : Nat) : Defect :=
  ⟨reason, p.start, stop, p.octet⟩

/- Decode octets from a position on. -/
def decodeFrom
    (position : Nat) :
    Option Pending → List UInt8 → Except Defect (List Char)
| none, [] => .ok []
| some p, [] => .error (p.defect .endOfData position)
| none, octet :: rest =>
    if octet.toNat < 0x80 then
      match decodeFrom (position + 1) none rest with
      | .error d => .error d
      | .ok text => .ok (Char.ofNat octet.toNat :: text)
    else
      match begin? position octet.toNat with
      | none =>
          .error
            ⟨.invalidStart, position, position + 1,
              octet.toNat⟩
      | some p => decodeFrom (position + 1) (some p) rest
| some p, octet :: rest =>
    if p.low ≤ octet.toNat ∧ octet.toNat ≤ p.high then
      let bits := p.bits * 64 + (octet.toNat - 0x80)
      match p.owed with
      | 0 =>
          match decodeFrom (position + 1) none rest with
          | .error d => .error d
          | .ok text => .ok (Char.ofNat bits :: text)
      | owed + 1 =>
          decodeFrom (position + 1)
            (some
              { p with
                owed := owed
                low := 0x80
                high := 0xBF
                bits := bits })
            rest
    else .error (p.defect .invalidContinuation position)

/- Decode octets. -/
def decode
    (octets : List UInt8) : Except Defect (List Char) :=
  decodeFrom 0 none octets

end Utf8

------------------------------------------------------------
-- Line Ends
------------------------------------------------------------

namespace Text

/-
  The text with line feeds for all its line ends. A carriage
  return ends a line, with or without a line feed behind it.
-/
def unifyLineEnds : List Char → List Char
| [] => []
| '\r' :: '\n' :: rest => '\n' :: unifyLineEnds rest
| '\r' :: rest => '\n' :: unifyLineEnds rest
| c :: rest => c :: unifyLineEnds rest

end Text

end IntcodeMachine
