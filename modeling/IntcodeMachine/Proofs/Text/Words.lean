import IntcodeMachine.Proofs.Numeral.Decimal
import IntcodeMachine.Proofs.Text.Pieces

/-
  This file defines the words of a text, which stand between
  its blanks.

  The words of a text are found again in a column and in a
  row of texts. A numeral is one word, of digits and a minus
  sign alone.

  Main declarations:
    * `Text.words`
    * `Text.words_append`
    * `Text.words_padStart`, `Text.words_padEnd`
    * `Text.words_join`
    * `Numeral.words_chars`
-/

------------------------------------------------------------
-- Words
------------------------------------------------------------

namespace IntcodeMachine

namespace Text

/- What stands between the blanks of a text. -/
def words (text : List Char) : List (List Char) :=
  (pieces ' ' text).filter fun piece => !piece.isEmpty

theorem words_append
    (left right : List Char) :
    words (left ++ ' ' :: right) = words left ++ words right := by
  rw [words, pieces_append_cons, List.filter_append]
  rfl

theorem words_of_not_mem
    {text : List Char}
    (hText : text ≠ [])
    (hApart : ' ' ∉ text) :
    words text = [text] := by
  rw [words, pieces_of_not_mem hApart]
  simpa using hText

/- What follows a column is part of a wider one. -/
theorem padStart_append
    (width : Nat)
    (text more : List Char) :
    padStart width text ++ more =
      padStart (width + more.length) (text ++ more) := by
  rw [padStart, padStart, List.length_append,
    Nat.add_sub_add_right, List.append_assoc]

/- A word stays the same at the right end of a column. -/
theorem words_padStart
    (width : Nat)
    (text : List Char) :
    words (padStart width text) = words text := by
  unfold padStart
  induction width - text.length with
  | zero => rfl
  | succ n ih =>
      rw [List.replicate_succ, List.cons_append, ← ih]
      exact words_append [] _

/- So it does at the left end. -/
theorem words_padEnd
    (width : Nat)
    (text : List Char) :
    words (padEnd width text) = words text := by
  unfold padEnd
  induction width - text.length with
  | zero => rw [List.replicate_zero, List.append_nil]
  | succ n ih =>
      rw [List.replicate_succ', ← List.append_assoc,
        words_append, ih]
      exact List.append_nil _

theorem words_join
    (parts : List (List Char)) :
    words (join [' '] parts) = parts.flatMap words := by
  unfold join
  induction parts with
  | nil => rfl
  | cons part rest ih =>
      cases rest with
      | nil => simp
      | cons next more =>
          rw [List.intercalate_cons_cons, List.append_assoc,
            List.singleton_append, words_append, ih]
          rfl

theorem mem_padStart
    {width : Nat}
    {text : List Char}
    {c : Char}
    (hMember : c ∈ padStart width text) :
    c = ' ' ∨ c ∈ text :=
  (List.mem_append.mp hMember).imp_left
    List.eq_of_mem_replicate

theorem mem_padEnd
    {width : Nat}
    {text : List Char}
    {c : Char}
    (hMember : c ∈ padEnd width text) :
    c ∈ text ∨ c = ' ' :=
  (List.mem_append.mp hMember).imp_right
    List.eq_of_mem_replicate

theorem mem_join
    {separator : List Char}
    {parts : List (List Char)}
    {c : Char}
    (hMember : c ∈ join separator parts) :
    c ∈ separator ∨ ∃ part ∈ parts, c ∈ part := by
  cases parts with
  | nil => simp [join] at hMember
  | cons part rest =>
      rw [join_cons, List.mem_append, List.mem_flatMap]
        at hMember
      rcases hMember with hFirst | ⟨other, hOther, hInside⟩
      · exact Or.inr ⟨part, List.mem_cons_self, hFirst⟩
      · refine (List.mem_append.mp hInside).imp_right ?_
        exact fun h =>
          ⟨other, List.mem_cons_of_mem part hOther, h⟩

end Text

------------------------------------------------------------
-- Numerals
------------------------------------------------------------

namespace Numeral

theorem toList_render
    (n : Int) :
    (render n).toList = chars n :=
  String.toList_ofList

/- A numeral does not show any other character. -/
theorem not_mem_chars
    {c : Char}
    (hForeign : c ≠ '-' ∧ c.isDigit = false)
    (n : Int) :
    c ∉ chars n := by
  rcases hForeign with ⟨hMinus, hDigit⟩
  intro hMember
  rcases digit_or_minus_of_mem_chars hMember with
    hOther | hSame
  · simp [hDigit] at hOther
  · exact hMinus hSame

theorem words_chars
    (n : Int) :
    Text.words (chars n) = [chars n] := by
  refine
    Text.words_of_not_mem ?_ (not_mem_chars (by decide) n)
  unfold chars
  split
  · exact List.cons_ne_nil _ _
  · exact (allDigits_digits _).1

end Numeral

end IntcodeMachine
