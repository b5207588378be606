import IntcodeMachine.Text.Ranges

/-
  This file defines the blank characters and what it means
  to strip a text.

  A blank is a character with the white-space property of
  Unicode 14, or one of the four information separators
  from U+001C to U+001F. The zero-width space U+200B and
  the byte-order mark U+FEFF are not blank.

  Key definitions include:
    * `Text.isBlank`
    * `Text.strip`
    * `Text.AllBlank`
-/

------------------------------------------------------------
-- Blank Characters
------------------------------------------------------------

namespace IntcodeMachine

namespace Text

/- The code points of the blank characters. -/
def blankRanges : List Range :=
  [(0x09, 0x0D), (0x1C, 0x20), (0x85, 0x85), (0xA0, 0xA0),
   (0x1680, 0x1680), (0x2000, 0x200A), (0x2028, 0x2029),
   (0x202F, 0x202F), (0x205F, 0x205F), (0x3000, 0x3000)]

/- A character that stripping removes. -/
def isBlank (c : Char) : Bool :=
  inRanges blankRanges c.toNat

------------------------------------------------------------
-- Stripping
------------------------------------------------------------

/- The text without the blanks at its start. -/
def stripStart (text : List Char) : List Char :=
  text.dropWhile isBlank

/- The text without the blanks at its end. -/
def stripEnd (text : List Char) : List Char :=
  (text.reverse.dropWhile isBlank).reverse

/- The text without the blanks at either end. -/
def strip (text : List Char) : List Char :=
  stripEnd (stripStart text)

/- A text of blanks only; the empty text is one. -/
def AllBlank (text : List Char) : Prop :=
  ∀ c ∈ text, isBlank c = true

instance (text : List Char) : Decidable (AllBlank text) :=
  List.decidableBAll (fun c => isBlank c = true) text

end Text

end IntcodeMachine
