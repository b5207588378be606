import IntcodeMachine.Text.Blank
import IntcodeMachine.Text.Lines
import Mathlib.Data.List.Basic
import Mathlib.Data.List.TakeWhile

/-
  This file relates stripping, cutting and joining.

  Cutting a text at a character and joining pieces with it
  undo each other. What stripping leaves is the one part of
  a text that has blanks around it and none at its own ends.
  A text that is joined of pieces that are not blank can be
  stripped before it is cut: only the outer pieces lose
  blanks, which they would lose anyway.

  Main declarations:
    * `Text.pieces_eq_splitOn`
    * `Text.pieces_join`
    * `Text.pieces_append_cons`
    * `Text.strip_eq_iff`
    * `Text.Solid.strip_pieces_of_join`
-/

------------------------------------------------------------
-- Cutting And Joining
------------------------------------------------------------

namespace IntcodeMachine

namespace Text

theorem pieces_eq_splitOn
    (mark : Char)
    (text : List Char) :
    pieces mark text = text.splitOn mark := by
  induction text with
  | nil => rfl
  | cons c rest ih =>
      rw [List.splitOn_cons_eq_if_modifyHead, ← ih, pieces]
      cases hPieces : pieces mark rest with
      | nil =>
          rw [ih] at hPieces
          exact absurd hPieces (List.splitOn_ne_nil mark rest)
      | cons piece more => simp

theorem pieces_ne_nil
    (mark : Char)
    (text : List Char) :
    pieces mark text ≠ [] := by
  rw [pieces_eq_splitOn]
  exact List.splitOn_ne_nil mark text

/- The pieces of a text join to the text. -/
theorem join_pieces
    (mark : Char)
    (text : List Char) :
    join [mark] (pieces mark text) = text := by
  rw [pieces_eq_splitOn]
  exact List.intercalate_splitOn mark

/- Pieces without the mark are found again in their join. -/
theorem pieces_join
    {mark : Char}
    {parts : List (List Char)}
    (hNonempty : parts ≠ [])
    (hApart : ∀ part ∈ parts, mark ∉ part) :
    pieces mark (join [mark] parts) = parts := by
  rw [pieces_eq_splitOn]
  exact List.splitOn_intercalate mark hApart hNonempty

theorem pieces_of_not_mem
    {mark : Char}
    {text : List Char}
    (hApart : mark ∉ text) :
    pieces mark text = [text] := by
  have hPieces :=
    pieces_join (List.cons_ne_nil text [])
      (List.forall_mem_singleton.mpr hApart)
  rwa [join, List.intercalate_singleton] at hPieces

/- A text is cut at a mark as on both sides of it. -/
theorem pieces_append_cons
    (mark : Char)
    (left right : List Char) :
    pieces mark (left ++ mark :: right) =
      pieces mark left ++ pieces mark right := by
  induction left with
  | nil =>
      rw [List.nil_append]
      cases hPieces : pieces mark right with
      | nil => exact absurd hPieces (pieces_ne_nil mark right)
      | cons piece more => simp [pieces, hPieces]
  | cons c rest ih =>
      rw [List.cons_append, pieces, ih, pieces]
      cases hPieces : pieces mark rest with
      | nil => exact absurd hPieces (pieces_ne_nil mark rest)
      | cons piece more =>
          rw [List.cons_append]
          dsimp only
          split <;> rfl

/- The mark does not occur in a piece. -/
theorem not_mem_of_mem_pieces
    {mark : Char}
    {text piece : List Char}
    (hPiece : piece ∈ pieces mark text) :
    mark ∉ piece := by
  induction text generalizing piece with
  | nil =>
      rw [List.mem_singleton.mp hPiece]
      exact List.not_mem_nil
  | cons c rest ih =>
      unfold pieces at hPiece
      split at hPiece
      · rename_i hPieces
        exact absurd hPieces (pieces_ne_nil mark rest)
      · rename_i first more hPieces
        rw [hPieces] at ih
        split at hPiece
        · rcases List.mem_cons.mp hPiece with rfl | hMember
          · exact List.not_mem_nil
          · exact ih hMember
        · rename_i hOther
          rcases List.mem_cons.mp hPiece with rfl | hMember
          · rw [List.mem_cons, not_or]
            exact ⟨Ne.symm hOther, ih List.mem_cons_self⟩
          · exact ih (List.mem_cons_of_mem first hMember)

theorem join_cons
    (separator part : List Char)
    (parts : List (List Char)) :
    join separator (part :: parts) =
      part ++ parts.flatMap (separator ++ ·) := by
  unfold join
  induction parts generalizing part with
  | nil => simp
  | cons next rest ih =>
      rw [List.intercalate_cons_cons, ih next,
        List.flatMap_cons]
      simp only [List.append_assoc]

theorem join_append_singleton
    (separator part : List Char)
    (parts : List (List Char)) :
    join separator (parts ++ [part]) =
      parts.flatMap (· ++ separator) ++ part := by
  induction parts with
  | nil => simp [join]
  | cons first rest ih =>
      rw [List.cons_append, List.flatMap_cons]
      unfold join at ih ⊢
      rw [List.intercalate_cons_of_ne_nil (by simp), ih]
      simp only [List.append_assoc]

------------------------------------------------------------
-- Stripping
------------------------------------------------------------

/- The text neither starts nor ends with a blank. -/
structure Tight (text : List Char) : Prop where
  first : ∀ c ∈ text.head?, isBlank c = false
  last : ∀ c ∈ text.getLast?, isBlank c = false

theorem tight_of_not_blank
    {text : List Char}
    (hText : ∀ c ∈ text, isBlank c = false) :
    Tight text :=
  ⟨fun c hFirst => hText c (List.mem_of_mem_head? hFirst),
    fun c hLast => hText c (List.mem_of_getLast? hLast)⟩

theorem allBlank_nil : AllBlank [] :=
  List.forall_mem_nil _

theorem AllBlank.append
    {left right : List Char}
    (hLeft : AllBlank left)
    (hRight : AllBlank right) :
    AllBlank (left ++ right) := by
  intro c hMember
  rcases List.mem_append.mp hMember with hMember | hMember
  · exact hLeft c hMember
  · exact hRight c hMember

/- The mirror image of a blank text is blank. -/
theorem AllBlank.reverse
    {text : List Char}
    (hBlank : AllBlank text) :
    AllBlank text.reverse :=
  fun c hMember => hBlank c (List.mem_reverse.mp hMember)

/- The end is stripped as the start of the mirror image. -/
theorem stripEnd_eq
    (text : List Char) :
    stripEnd text = (stripStart text.reverse).reverse :=
  rfl

/- What is stripped from the start is blank. -/
theorem exists_stripStart
    (text : List Char) :
    ∃ blanks, AllBlank blanks ∧
      text = blanks ++ stripStart text :=
  ⟨text.takeWhile isBlank,
    List.all_eq_true.mp List.all_takeWhile,
    List.takeWhile_append_dropWhile.symm⟩

/- What is stripped from the end is blank. -/
theorem exists_stripEnd
    (text : List Char) :
    ∃ blanks, AllBlank blanks ∧
      text = stripEnd text ++ blanks := by
  rcases exists_stripStart text.reverse with
    ⟨blanks, hBlanks, hText⟩
  refine ⟨blanks.reverse, hBlanks.reverse, ?_⟩
  rw [stripEnd_eq, ← List.reverse_append, ← hText,
    List.reverse_reverse]

theorem stripStart_append_of_allBlank
    {blanks : List Char}
    (hBlanks : AllBlank blanks)
    (text : List Char) :
    stripStart (blanks ++ text) = stripStart text :=
  List.dropWhile_append_of_pos hBlanks

theorem stripEnd_append_of_allBlank
    {blanks : List Char}
    (hBlanks : AllBlank blanks)
    (text : List Char) :
    stripEnd (text ++ blanks) = stripEnd text := by
  rw [stripEnd_eq, List.reverse_append,
    stripStart_append_of_allBlank hBlanks.reverse,
    ← stripEnd_eq]

theorem stripStart_eq_nil_iff
    (text : List Char) :
    stripStart text = [] ↔ AllBlank text :=
  List.dropWhile_eq_nil_iff

/- A part that is not blank ends the stripping. -/
theorem stripStart_append_of_not_allBlank
    {part : List Char}
    (hPart : ¬ AllBlank part)
    (rest : List Char) :
    stripStart (part ++ rest) = stripStart part ++ rest := by
  rw [← stripStart_eq_nil_iff] at hPart
  unfold stripStart at hPart ⊢
  rw [List.dropWhile_append, if_neg (by simpa using hPart)]

theorem stripEnd_append_of_not_allBlank
    {part : List Char}
    (hPart : ¬ AllBlank part)
    (before : List Char) :
    stripEnd (before ++ part) = before ++ stripEnd part := by
  have hMirror : ¬ AllBlank part.reverse := by
    intro hBlank
    exact hPart (List.reverse_reverse part ▸ hBlank.reverse)
  rw [stripEnd_eq, List.reverse_append,
    stripStart_append_of_not_allBlank hMirror,
    List.reverse_append, List.reverse_reverse, ← stripEnd_eq]

theorem stripStart_of_first
    {text : List Char}
    (hFirst : ∀ c ∈ text.head?, isBlank c = false) :
    stripStart text = text := by
  cases text with
  | nil => rfl
  | cons c rest =>
      exact
        List.dropWhile_cons_of_neg
          (Bool.eq_false_iff.mp (hFirst c rfl))

theorem stripEnd_of_last
    {text : List Char}
    (hLast : ∀ c ∈ text.getLast?, isBlank c = false) :
    stripEnd text = text := by
  rw [stripEnd_eq, stripStart_of_first,
    List.reverse_reverse]
  rw [List.head?_reverse]
  exact hLast

theorem first_stripStart
    (text : List Char) :
    ∀ c ∈ (stripStart text).head?, isBlank c = false := by
  intro c hFirst
  have hNot := List.head?_dropWhile_not isBlank text
  rw [← stripStart, Option.mem_def.mp hFirst] at hNot
  exact hNot

/- Nothing is left to strip after stripping. -/
theorem tight_strip
    (text : List Char) :
    Tight (strip text) := by
  constructor
  · rcases exists_stripEnd (stripStart text) with
      ⟨blanks, -, hText⟩
    intro c hFirst
    apply first_stripStart text
    rw [hText, List.head?_append]
    rw [strip, Option.mem_def] at hFirst
    rw [hFirst]
    rfl
  · intro c hLast
    apply first_stripStart (stripStart text).reverse
    rwa [strip, stripEnd_eq, List.getLast?_reverse] at hLast

theorem strip_padded
    {left token right : List Char}
    (hLeft : AllBlank left)
    (hTight : Tight token)
    (hRight : AllBlank right) :
    strip (left ++ token ++ right) = token := by
  unfold strip
  rw [List.append_assoc,
    stripStart_append_of_allBlank hLeft]
  by_cases hNil : token = []
  · subst hNil
    rw [List.nil_append, (stripStart_eq_nil_iff right).mpr hRight]
    rfl
  · rw [stripStart_of_first, stripEnd_append_of_allBlank hRight,
      stripEnd_of_last hTight.last]
    rw [List.head?_append_of_ne_nil _ hNil]
    exact hTight.first

/-
  What stripping leaves is the one tight part of a text
  that has blanks around it.
-/
theorem strip_eq_iff
    {text token : List Char} :
    strip text = token ↔
      Tight token ∧
        ∃ left right, AllBlank left ∧ AllBlank right ∧
          text = left ++ token ++ right := by
  constructor
  · rintro rfl
    rcases exists_stripStart text with ⟨left, hLeft, hText⟩
    rcases exists_stripEnd (stripStart text) with
      ⟨right, hRight, hRest⟩
    refine
      ⟨tight_strip text, left, right, hLeft, hRight, ?_⟩
    rw [strip, List.append_assoc, ← hRest, ← hText]
  · rintro ⟨hTight, left, right, hLeft, hRight, rfl⟩
    exact strip_padded hLeft hTight hRight

/- Blanks around a text do not change what is left of it. -/
theorem strip_append
    {left right : List Char}
    (hLeft : AllBlank left)
    (hRight : AllBlank right)
    (text : List Char) :
    strip (left ++ text ++ right) = strip text := by
  rcases strip_eq_iff.mp (rfl : strip text = strip text) with
    ⟨hTight, left', right', hLeft', hRight', hText⟩
  refine
    strip_eq_iff.mpr
      ⟨hTight, left ++ left', right' ++ right,
        hLeft.append hLeft', hRight'.append hRight, ?_⟩
  calc
    left ++ text ++ right
    _ = left ++ (left' ++ strip text ++ right') ++ right := by
          rw [← hText]
    _ = (left ++ left') ++ strip text ++ (right' ++ right) := by
          simp only [List.append_assoc]

theorem strip_stripStart
    (text : List Char) :
    strip (stripStart text) = strip text := by
  rw [strip, stripStart_of_first (first_stripStart text),
    strip]

theorem strip_stripEnd
    (text : List Char) :
    strip (stripEnd text) = strip text := by
  rcases exists_stripEnd text with ⟨blanks, hBlanks, hText⟩
  have hStrip :=
    strip_append allBlank_nil hBlanks (stripEnd text)
  rw [List.nil_append, ← hText] at hStrip
  exact hStrip.symm

theorem strip_eq_nil_iff
    (text : List Char) :
    strip text = [] ↔ AllBlank text := by
  rw [strip_eq_iff]
  constructor
  · rintro ⟨-, left, right, hLeft, hRight, rfl⟩
    rw [List.append_nil]
    exact hLeft.append hRight
  · intro hBlank
    exact
      ⟨tight_of_not_blank (List.forall_mem_nil _), text, [],
        hBlank, allBlank_nil, by simp⟩

------------------------------------------------------------
-- Stripping Before Cutting
------------------------------------------------------------

/- Pieces of a text, none of which is blank. -/
structure Solid
    (mark : Char)
    (parts : List (List Char)) : Prop where
  nonempty : parts ≠ []
  apart : ∀ part ∈ parts, mark ∉ part
  visible : ∀ part ∈ parts, strip part ≠ []

/- A piece may lose characters as long as it is not blank. -/
theorem Solid.replace
    {mark : Char}
    {before after : List (List Char)}
    {part trimmed : List Char}
    (hSolid : Solid mark (before ++ part :: after))
    (hSubset : trimmed ⊆ part)
    (hStrip : strip trimmed = strip part) :
    Solid mark (before ++ trimmed :: after) := by
  rcases hSolid with ⟨-, hApart, hVisible⟩
  rw [List.forall_mem_append, List.forall_mem_cons]
    at hApart hVisible
  refine ⟨by simp, ?_, ?_⟩
  · rw [List.forall_mem_append, List.forall_mem_cons]
    exact
      ⟨hApart.1, fun hMark => hApart.2.1 (hSubset hMark),
        hApart.2.2⟩
  · rw [List.forall_mem_append, List.forall_mem_cons, hStrip]
    exact hVisible

theorem Solid.not_allBlank
    {mark : Char}
    {parts : List (List Char)}
    (hSolid : Solid mark parts) :
    ¬ AllBlank (join [mark] parts) := by
  rcases List.exists_cons_of_ne_nil hSolid.nonempty with
    ⟨part, rest, rfl⟩
  intro hBlank
  apply hSolid.visible part List.mem_cons_self
  rw [strip_eq_nil_iff]
  intro c hMember
  apply hBlank
  rw [join_cons]
  exact List.mem_append_left _ hMember

/- Only the first piece loses blanks at the start. -/
theorem Solid.stripStart_join
    {mark : Char}
    {parts : List (List Char)}
    (hSolid : Solid mark parts) :
    ∃ trimmed, Solid mark trimmed ∧
      stripStart (join [mark] parts) = join [mark] trimmed ∧
      trimmed.map strip = parts.map strip := by
  rcases List.exists_cons_of_ne_nil hSolid.nonempty with
    ⟨part, rest, rfl⟩
  have hVisible := hSolid.visible part List.mem_cons_self
  rw [Ne, strip_eq_nil_iff] at hVisible
  have hFront : Solid mark ([] ++ part :: rest) := hSolid
  refine ⟨stripStart part :: rest, ?_, ?_, ?_⟩
  · exact
      hFront.replace (List.dropWhile_subset _)
        (strip_stripStart part)
  · rw [join_cons, join_cons,
      stripStart_append_of_not_allBlank hVisible]
  · rw [List.map_cons, List.map_cons, strip_stripStart]

/- Only the last piece loses blanks at the end. -/
theorem Solid.stripEnd_join
    {mark : Char}
    {parts : List (List Char)}
    (hSolid : Solid mark parts) :
    ∃ trimmed, Solid mark trimmed ∧
      stripEnd (join [mark] parts) = join [mark] trimmed ∧
      trimmed.map strip = parts.map strip := by
  rcases List.eq_nil_or_concat parts with
    rfl | ⟨before, part, rfl⟩
  · exact absurd rfl hSolid.nonempty
  rw [List.concat_eq_append] at hSolid ⊢
  have hVisible := hSolid.visible part (by simp)
  rw [Ne, strip_eq_nil_iff] at hVisible
  have hSubset : stripEnd part ⊆ part := by
    rcases exists_stripEnd part with ⟨blanks, -, hPart⟩
    intro c hMember
    rw [hPart]
    exact List.mem_append_left _ hMember
  refine ⟨before ++ [stripEnd part], ?_, ?_, ?_⟩
  · exact hSolid.replace hSubset (strip_stripEnd part)
  · rw [join_append_singleton, join_append_singleton,
      stripEnd_append_of_not_allBlank hVisible]
  · rw [List.map_append, List.map_append,
      List.map_singleton, List.map_singleton,
      strip_stripEnd]

/-
  A text that is joined of pieces that are not blank is cut
  into the same pieces, up to blanks, after it is stripped.
-/
theorem Solid.strip_pieces_of_join
    {mark : Char}
    {parts : List (List Char)}
    (hSolid : Solid mark parts) :
    (pieces mark (strip (join [mark] parts))).map strip =
      parts.map strip := by
  rcases hSolid.stripStart_join with
    ⟨started, hStarted, hStart, hStartTokens⟩
  rcases hStarted.stripEnd_join with
    ⟨ended, hEnded, hEnd, hEndTokens⟩
  rw [strip, hStart, hEnd,
    pieces_join hEnded.nonempty hEnded.apart, hEndTokens,
    hStartTokens]

end Text

end IntcodeMachine
