import IntcodeMachine.Tape.Program
import IntcodeMachine.Proofs.Numeral.Decimal
import IntcodeMachine.Proofs.Text.Pieces
import Mathlib.Data.List.Forall2

/-
  This file gives the grammar of program texts, and shows
  that exactly its texts are read.

  A program is spelled by numerals, one for each cell, with
  a mark between neighbours; there may be blanks around the
  numerals and around the whole text. The mark can be any
  character. If it is blank itself, marks at the ends of the
  text are blanks around it. Of any other text that is not
  blank, the first piece that is no numeral is blamed.

  Main declarations:
    * `Numeral.Padded`
    * `Tape.Spelled`
    * `Tape.Blamed`
    * `Tape.parse_grammar`
-/

------------------------------------------------------------
-- Pieces Of A Program
------------------------------------------------------------

namespace IntcodeMachine

namespace Numeral

/- The piece is a numeral that may have blanks around it. -/
def Padded
    (piece : List Char)
    (n : Int) : Prop :=
  ∃ left token right,
    Text.AllBlank left ∧ Denotes token n ∧
      Text.AllBlank right ∧ piece = left ++ token ++ right

/- The blank ranges and the digits do not meet. -/
theorem not_blank_of_isDigit
    {c : Char}
    (hDigit : c.isDigit = true) :
    Text.isBlank c = false := by
  have hBounds := Char.isDigit_iff_toNat.mp hDigit
  have hZero : '0'.toNat = 48 := rfl
  have hNine : '9'.toNat = 57 := rfl
  have hRanges :
      ∀ range ∈ Text.blankRanges,
        range.2 < 48 ∨ 57 < range.1 := by
    decide
  rw [Text.isBlank, Text.inRanges, List.any_eq_false]
  intro range hMember
  have hApart := hRanges range hMember
  rw [Bool.and_eq_true, decide_eq_true_eq,
    decide_eq_true_eq]
  omega

/- Neither the sign nor the digits of a token are blank. -/
theorem Spells.not_blank
    {token : List Char}
    {negative : Bool}
    {ds : List Char}
    (hSpells : Spells token negative ds) :
    ∀ c ∈ token, Text.isBlank c = false := by
  have hDigits : ∀ c ∈ ds, Text.isBlank c = false :=
    fun c hMember =>
      not_blank_of_isDigit
        ((spells_iff.mp hSpells).2.2 c hMember)
  cases hSpells with
  | unsigned _ => exact hDigits
  | plus _ => exact List.forall_mem_cons.mpr ⟨rfl, hDigits⟩
  | minus _ => exact List.forall_mem_cons.mpr ⟨rfl, hDigits⟩

theorem Spells.ne_nil
    {token : List Char}
    {negative : Bool}
    {ds : List Char}
    (hSpells : Spells token negative ds) :
    token ≠ [] := by
  cases hSpells with
  | unsigned hDigits => exact hDigits.1
  | plus _ => exact List.cons_ne_nil _ _
  | minus _ => exact List.cons_ne_nil _ _

/- Blanks around a token are stripped, and nothing else. -/
theorem Spells.strip_padded
    {token : List Char}
    {negative : Bool}
    {ds : List Char}
    (hSpells : Spells token negative ds)
    {left right : List Char}
    (hLeft : Text.AllBlank left)
    (hRight : Text.AllBlank right) :
    Text.strip (left ++ token ++ right) = token :=
  Text.strip_padded hLeft
    (Text.tight_of_not_blank hSpells.not_blank) hRight

/- Stripping a piece leaves its numeral. -/
theorem padded_iff
    {piece : List Char}
    {n : Int} :
    Padded piece n ↔ Denotes (Text.strip piece) n := by
  constructor
  · rintro ⟨left, token, right, hLeft, hDenotes, hRight, rfl⟩
    rcases hDenotes with ⟨negative, ds, hSpells, hValue⟩
    rw [hSpells.strip_padded hLeft hRight]
    exact ⟨negative, ds, hSpells, hValue⟩
  · intro hDenotes
    rcases Text.strip_eq_iff.mp (Eq.refl (Text.strip piece))
      with ⟨-, left, right, hLeft, hRight, hPiece⟩
    exact
      ⟨left, Text.strip piece, right, hLeft, hDenotes,
        hRight, hPiece⟩

/- A defective token does not stand for an integer. -/
theorem Defective.not_denotes
    {token : List Char}
    {m : Misread}
    (hDefective : Defective token m)
    (n : Int) :
    ¬ Denotes token n := by
  rw [← readToken_eq_ok_iff,
    readToken_eq_error_iff.mpr hDefective]
  simp

end Numeral

------------------------------------------------------------
-- Reading Tokens In Order
------------------------------------------------------------

namespace Tape

open Numeral (Denotes Defective Padded)

/- Tokens are read if each of them stands for an integer. -/
theorem cellsOfTokens_eq_ok_iff
    {index : Nat}
    {tokens : List (List Char)}
    {cells : List Int} :
    cellsOfTokens index tokens = .ok cells ↔
      List.Forall₂ Denotes tokens cells := by
  induction tokens generalizing index cells with
  | nil =>
      rw [cellsOfTokens, List.forall₂_nil_left_iff,
        Except.ok.injEq, eq_comm]
  | cons token rest ih =>
      rw [List.forall₂_cons_left_iff, cellsOfTokens]
      constructor
      · intro hCells
        cases hRead : Numeral.readToken token with
        | error m => simp [hRead] at hCells
        | ok n =>
            rw [hRead] at hCells
            dsimp only at hCells
            cases hRest : cellsOfTokens (index + 1) rest with
            | error f => simp [hRest] at hCells
            | ok ns =>
                rw [hRest] at hCells
                exact
                  ⟨n, ns, Numeral.readToken_eq_ok_iff.mp hRead,
                    ih.mp hRest, (Except.ok.inj hCells).symm⟩
      · rintro ⟨n, ns, hDenotes, hRest, rfl⟩
        rw [Numeral.readToken_eq_ok_iff.mpr hDenotes]
        dsimp only
        rw [ih.mpr hRest]

/- A defective token is reported if all before it is read. -/
theorem cellsOfTokens_of_defective
    {before : List (List Char)}
    {token : List Char}
    {m : Numeral.Misread}
    (hBefore : ∀ t ∈ before, ∃ n, Denotes t n)
    (hDefective : Defective token m)
    (index : Nat)
    (after : List (List Char)) :
    cellsOfTokens index (before ++ token :: after) =
      .error
        (.badToken (index + before.length)
          (String.ofList token) (defect m)) := by
  induction before generalizing index with
  | nil =>
      rw [List.nil_append, cellsOfTokens,
        Numeral.readToken_eq_error_iff.mpr hDefective]
      rfl
  | cons t rest ih =>
      rw [List.forall_mem_cons] at hBefore
      rcases hBefore with ⟨⟨n, hDenotes⟩, hRest⟩
      rw [List.cons_append, cellsOfTokens,
        Numeral.readToken_eq_ok_iff.mpr hDenotes]
      dsimp only
      rw [ih hRest, List.length_cons, Nat.add_right_comm,
        Nat.add_assoc]

/- If a token is reported, all before it are numerals. -/
theorem exists_defective
    {index : Nat}
    {tokens : List (List Char)}
    {f : Fault}
    (hCells : cellsOfTokens index tokens = .error f) :
    ∃ before token after m,
      tokens = before ++ token :: after ∧
        (∀ t ∈ before, ∃ n, Denotes t n) ∧
        Defective token m := by
  induction tokens generalizing index with
  | nil => simp [cellsOfTokens] at hCells
  | cons token rest ih =>
      rw [cellsOfTokens] at hCells
      cases hRead : Numeral.readToken token with
      | error m =>
          exact
            ⟨[], token, rest, m, rfl, List.forall_mem_nil _,
              Numeral.readToken_eq_error_iff.mp hRead⟩
      | ok n =>
          rw [hRead] at hCells
          dsimp only at hCells
          cases hRest : cellsOfTokens (index + 1) rest with
          | ok ns => simp [hRest] at hCells
          | error g =>
              rw [hRest] at hCells
              rcases ih (hRest.trans hCells) with
                ⟨before, bad, after, m, rfl, hBefore,
                  hDefective⟩
              have hDenotes :=
                Numeral.readToken_eq_ok_iff.mp hRead
              exact
                ⟨token :: before, bad, after, m, rfl,
                  List.forall_mem_cons.mpr
                    ⟨⟨n, hDenotes⟩, hBefore⟩,
                  hDefective⟩

/- The first token without an integer is reported. -/
theorem cellsOfTokens_eq_error_iff
    {index : Nat}
    {tokens : List (List Char)}
    {f : Fault} :
    cellsOfTokens index tokens = .error f ↔
      ∃ before token after m,
        tokens = before ++ token :: after ∧
          (∀ t ∈ before, ∃ n, Denotes t n) ∧
          Defective token m ∧
          f = .badToken (index + before.length)
            (String.ofList token) (defect m) := by
  constructor
  · intro hCells
    rcases exists_defective hCells with
      ⟨before, token, after, m, rfl, hBefore, hDefective⟩
    rw [cellsOfTokens_of_defective hBefore hDefective]
      at hCells
    exact
      ⟨before, token, after, m, rfl, hBefore, hDefective,
        (Except.error.inj hCells).symm⟩
  · rintro
      ⟨before, token, after, m, rfl, hBefore, hDefective,
        rfl⟩
    exact
      cellsOfTokens_of_defective hBefore hDefective index
        after

------------------------------------------------------------
-- The Grammar
------------------------------------------------------------

/-
  The text consists of numerals, one for each cell, with
  marks between them. The mark occurs in no piece.
-/
def Spelled
    (mark : Char)
    (text : List Char)
    (cells : List Int) : Prop :=
  ∃ left pieces right,
    text = left ++ [mark].intercalate pieces ++ right ∧
      Text.AllBlank left ∧ Text.AllBlank right ∧
      pieces ≠ [] ∧ (∀ piece ∈ pieces, mark ∉ piece) ∧
      List.Forall₂ Padded pieces cells

/-
  The fault shows the first piece of the stripped text that
  is no numeral, by its index and without blanks around it.
-/
def Blamed
    (mark : Char)
    (text : List Char)
    (f : Fault) : Prop :=
  ∃ before piece after m,
    (Text.strip text).splitOn mark =
        before ++ piece :: after ∧
      (∀ p ∈ before, ∃ n, Padded p n) ∧
      (∀ n, ¬ Padded piece n) ∧
      Defective (Text.strip piece) m ∧
      f = .badToken before.length
        (String.ofList (Text.strip piece)) (defect m)

------------------------------------------------------------
-- The Cells Of A Text
------------------------------------------------------------

/- Each cell stems from a piece. -/
theorem exists_of_forall₂
    {α β : Type}
    {R : α → β → Prop}
    {pieces : List α}
    {cells : List β}
    (hPieces : List.Forall₂ R pieces cells) :
    ∀ n ∈ cells, ∃ piece ∈ pieces, R piece n := by
  induction hPieces with
  | nil => exact List.forall_mem_nil _
  | cons hHead _ ih =>
      rw [List.forall_mem_cons]
      refine ⟨⟨_, List.mem_cons_self, hHead⟩, ?_⟩
      intro n hMember
      rcases ih n hMember with ⟨piece, hPiece, hRelated⟩
      exact
        ⟨piece, List.mem_cons_of_mem _ hPiece, hRelated⟩

theorem Spelled.cells_ne_nil
    {mark : Char}
    {text : List Char}
    {cells : List Int}
    (hSpelled : Spelled mark text cells) :
    cells ≠ [] := by
  rcases hSpelled with
    ⟨-, pieces, -, -, -, -, hNonempty, -, hPieces⟩
  rintro rfl
  exact hNonempty (List.forall₂_nil_right_iff.mp hPieces)

/- A text is cut at characters that its cells do not show. -/
theorem Spelled.not_mem_chars
    {mark : Char}
    {text : List Char}
    {cells : List Int}
    (hSpelled : Spelled mark text cells) :
    ∀ n ∈ cells, mark ∉ Numeral.chars n := by
  rcases hSpelled with
    ⟨-, pieces, -, -, -, -, -, hApart, hPieces⟩
  intro n hMember hShown
  rcases exists_of_forall₂ hPieces n hMember with
    ⟨piece, hPiece, left, token, right, -, hDenotes, -, rfl⟩
  apply hApart _ hPiece
  exact
    List.mem_append_left _
      (List.mem_append_right _
        (Numeral.mem_of_mem_chars hDenotes hShown))

/- What was read can be written. -/
theorem Spelled.allWritable
    {mark : Char}
    {text : List Char}
    {cells : List Int}
    (hSpelled : Spelled mark text cells) :
    Numeral.AllWritable cells := by
  rcases hSpelled with
    ⟨-, pieces, -, -, -, -, -, -, hPieces⟩
  intro n hMember
  rcases exists_of_forall₂ hPieces n hMember with
    ⟨piece, -, left, token, right, -, hDenotes, -, -⟩
  exact hDenotes.writable

------------------------------------------------------------
-- Texts And Their Tokens
------------------------------------------------------------

/- Numerals are not blank, whatever stands around them. -/
theorem solid_of_padded
    {mark : Char}
    {pieces : List (List Char)}
    {cells : List Int}
    (hNonempty : pieces ≠ [])
    (hApart : ∀ piece ∈ pieces, mark ∉ piece)
    (hPieces : List.Forall₂ Padded pieces cells) :
    Text.Solid mark pieces := by
  refine ⟨hNonempty, hApart, fun piece hMember => ?_⟩
  rcases exists_of_forall₂ hPieces.flip piece hMember with
    ⟨n, -, hPadded⟩
  rcases Numeral.padded_iff.mp hPadded with
    ⟨negative, ds, hSpells, -⟩
  exact hSpells.ne_nil

/- The tokens of a text that is made of solid pieces. -/
theorem tokens_of_solid
    {mark : Char}
    {left right : List Char}
    {pieces : List (List Char)}
    (hLeft : Text.AllBlank left)
    (hRight : Text.AllBlank right)
    (hSolid : Text.Solid mark pieces) :
    tokens mark
        (left ++ [mark].intercalate pieces ++ right) =
      pieces.map Text.strip := by
  rw [tokens, Text.strip_append hLeft hRight]
  exact hSolid.strip_pieces_of_join

theorem forall₂_padded_iff
    {pieces : List (List Char)}
    {cells : List Int} :
    List.Forall₂ Padded pieces cells ↔
      List.Forall₂ Denotes (pieces.map Text.strip) cells := by
  rw [List.forall₂_map_left_iff]
  exact
    ⟨List.Forall₂.imp fun _ _ => Numeral.padded_iff.mp,
      List.Forall₂.imp fun _ _ => Numeral.padded_iff.mpr⟩

/- A text is spelled if all of its tokens are numerals. -/
theorem spelled_iff
    {mark : Char}
    {text : List Char}
    {cells : List Int} :
    Spelled mark text cells ↔
      ¬ Text.AllBlank text ∧
        List.Forall₂ Denotes (tokens mark text) cells := by
  constructor
  · rintro
      ⟨left, pieces, right, rfl, hLeft, hRight, hNonempty,
        hApart, hPieces⟩
    have hSolid := solid_of_padded hNonempty hApart hPieces
    rw [tokens_of_solid hLeft hRight hSolid]
    refine ⟨fun hBlank => ?_, forall₂_padded_iff.mp hPieces⟩
    -- A blank text would have blank pieces.
    apply hSolid.not_allBlank
    intro c hMember
    apply hBlank
    exact
      List.mem_append_left _ (List.mem_append_right _ hMember)
  · rintro ⟨-, hTokens⟩
    rcases Text.strip_eq_iff.mp (Eq.refl (Text.strip text))
      with ⟨-, left, right, hLeft, hRight, hText⟩
    refine
      ⟨left, Text.pieces mark (Text.strip text), right, ?_,
        hLeft, hRight, Text.pieces_ne_nil mark _,
        fun piece => Text.not_mem_of_mem_pieces,
        forall₂_padded_iff.mpr hTokens⟩
    rw [← Text.join, Text.join_pieces]
    exact hText

/- The first token that is no numeral is the one blamed. -/
theorem blamed_iff
    {mark : Char}
    {text : List Char}
    {f : Fault} :
    Blamed mark text f ↔
      cellsOfTokens 0 (tokens mark text) = .error f := by
  rw [cellsOfTokens_eq_error_iff, tokens,
    Text.pieces_eq_splitOn]
  constructor
  · rintro
      ⟨before, piece, after, m, hSplit, hBefore, -,
        hDefective, rfl⟩
    refine
      ⟨before.map Text.strip, Text.strip piece,
        after.map Text.strip, m, ?_, ?_, hDefective, ?_⟩
    · rw [hSplit, List.map_append, List.map_cons]
    · rw [List.forall_mem_map]
      intro p hMember
      rcases hBefore p hMember with ⟨n, hPadded⟩
      exact ⟨n, Numeral.padded_iff.mp hPadded⟩
    · rw [List.length_map, Nat.zero_add]
  · rintro
      ⟨tokensBefore, token, tokensAfter, m, hTokens,
        hBefore, hDefective, rfl⟩
    rcases List.map_eq_append_iff.mp hTokens with
      ⟨before, others, hSplit, rfl, hOthers⟩
    rcases List.map_eq_cons_iff.mp hOthers with
      ⟨piece, after, rfl, rfl, rfl⟩
    rw [List.forall_mem_map] at hBefore
    refine
      ⟨before, piece, after, m, hSplit, ?_, ?_, hDefective,
        ?_⟩
    · intro p hMember
      rcases hBefore p hMember with ⟨n, hDenotes⟩
      exact ⟨n, Numeral.padded_iff.mpr hDenotes⟩
    · intro n hPadded
      exact
        hDefective.not_denotes n (Numeral.padded_iff.mp hPadded)
    · rw [List.length_map, Nat.zero_add]

------------------------------------------------------------
-- Reading Programs
------------------------------------------------------------

/- The texts of the grammar are read as what they spell. -/
theorem parseAt_eq_ok_iff
    {mark : Char}
    {text : List Char}
    {t : Tape} :
    parseAt mark text = .ok t ↔
      Spelled mark text t.cells := by
  have hTokens :=
    @cellsOfTokens_eq_ok_iff 0 (tokens mark text) t.cells
  rw [spelled_iff, ← hTokens, parseAt]
  split
  · rename_i hBlank
    exact iff_of_false (by simp) fun h => h.1 hBlank
  · rename_i hBlank
    rw [and_iff_right hBlank]
    cases cellsOfTokens 0 (tokens mark text) with
    | error f => simp
    | ok ns =>
        dsimp only
        rw [Except.ok.injEq, Except.ok.injEq]
        exact ⟨fun h => h ▸ rfl, fun h => h ▸ rfl⟩

/- A blank text has its own fault, any other a culprit. -/
theorem parseAt_eq_error_iff
    {mark : Char}
    {text : List Char}
    {f : Fault} :
    parseAt mark text = .error f ↔
      Text.AllBlank text ∧ f = .emptyProgram ∨
        ¬ Text.AllBlank text ∧ Blamed mark text f := by
  rw [blamed_iff, parseAt]
  split
  · rename_i hBlank
    simp [hBlank, eq_comm]
  · rename_i hBlank
    cases cellsOfTokens 0 (tokens mark text) with
    | error g => simp [hBlank]
    | ok ns => simp [hBlank]

theorem parse_singleton_eq_ok_iff
    {text : String}
    {mark : Char}
    {t : Tape} :
    parse text (.singleton mark) = .ok t ↔
      parseAt mark text.toList = .ok t := by
  rw [parse, String.toList_singleton]
  dsimp only
  cases parseAt mark text.toList with
  | error f => simp
  | ok t' => simp

theorem parse_singleton_eq_error_iff
    {text : String}
    {mark : Char}
    {e : Failure} :
    parse text (.singleton mark) = .error e ↔
      ∃ f, parseAt mark text.toList = .error f ∧
        e = .fault f := by
  rw [parse, String.toList_singleton]
  dsimp only
  cases parseAt mark text.toList with
  | error f => simp [eq_comm]
  | ok t' => simp

theorem parse_eq_delimiterLength_iff
    {text delimiter : String} :
    parse text delimiter =
        .error (.delimiterLength delimiter) ↔
      delimiter.length ≠ 1 := by
  rw [parse, ← String.length_toList]
  rcases delimiter.toList with _ | ⟨mark, _ | ⟨c, rest⟩⟩
  · simp
  · dsimp only
    cases parseAt mark text.toList with
    | error f => simp
    | ok t => simp
  · simp

/- A tape that was read has a cell. -/
theorem size_pos_of_parse
    {text delimiter : String}
    {t : Tape}
    (hParse : parse text delimiter = .ok t) :
    0 < t.size := by
  unfold parse at hParse
  split at hParse
  · rename_i mark hDelimiter
    cases hRead : parseAt mark text.toList with
    | error f => simp [hRead] at hParse
    | ok t₁ =>
        simp only [hRead, Except.ok.injEq] at hParse
        rw [← hParse]
        exact
          List.length_pos_iff.mpr
            (parseAt_eq_ok_iff.mp hRead).cells_ne_nil
  · simp at hParse

/-
  Cut at a mark, a text is read exactly if it spells some
  cells, and then these are the cells of the tape. Otherwise
  it is blank, or its first piece that is no numeral is
  blamed. A delimiter that is not one character is refused
  whatever the text is.
-/
theorem parse_grammar
    (text : String) :
    (∀ mark : Char,
      (∀ t : Tape,
        parse text (.singleton mark) = .ok t ↔
          Spelled mark text.toList t.cells) ∧
      ∀ e : Failure,
        parse text (.singleton mark) = .error e ↔
          Text.AllBlank text.toList ∧
              e = .fault .emptyProgram ∨
            ¬ Text.AllBlank text.toList ∧
              ∃ f, Blamed mark text.toList f ∧
                e = .fault f) ∧
    ∀ delimiter : String,
      parse text delimiter =
          .error (.delimiterLength delimiter) ↔
        delimiter.length ≠ 1 := by
  refine
    ⟨fun mark => ⟨fun t => ?_, fun e => ?_⟩,
      fun delimiter => parse_eq_delimiterLength_iff⟩
  · rw [parse_singleton_eq_ok_iff, parseAt_eq_ok_iff]
  · rw [parse_singleton_eq_error_iff]
    constructor
    · rintro ⟨f, hParse, rfl⟩
      rcases parseAt_eq_error_iff.mp hParse with
        ⟨hBlank, rfl⟩ | ⟨hBlank, hBlamed⟩
      · exact Or.inl ⟨hBlank, rfl⟩
      · exact Or.inr ⟨hBlank, f, hBlamed, rfl⟩
    · rintro (⟨hBlank, rfl⟩ | ⟨hBlank, f, hBlamed, rfl⟩)
      · exact
          ⟨.emptyProgram,
            parseAt_eq_error_iff.mpr (Or.inl ⟨hBlank, rfl⟩),
            rfl⟩
      · exact
          ⟨f,
            parseAt_eq_error_iff.mpr
              (Or.inr ⟨hBlank, hBlamed⟩),
            rfl⟩

/- Blank marks at the ends of a text do not count. -/
example :
    parse "\n1\n+02\n" (.singleton '\n') =
      .ok ⟨[1, 2]⟩ := by
  decide

end Tape

end IntcodeMachine
