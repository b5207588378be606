import IntcodeMachine.Proofs.Tape.Grammar

/-
  This file relates writing a program to reading it.

  A tape is read back from the text that is written for it
  exactly if it has cells, all of them can be written, and
  the delimiter shows in none of them. A program text that
  was read is written in normal form: its pieces become the
  canonical numerals of the same integers.

  Main declarations:
    * `Tape.spelled_serializeChars_iff`
    * `Tape.serialize_parse_iff`
    * `Tape.normalize`
    * `Tape.parse_serialize`
-/

------------------------------------------------------------
-- Reading What Was Written
------------------------------------------------------------

namespace IntcodeMachine

namespace Tape

open Numeral (Canonical Denotes Padded)

theorem padded_chars
    {n : Int}
    (hWritable : Numeral.Writable n) :
    Padded (Numeral.chars n) n :=
  ⟨[], Numeral.chars n, [], Text.allBlank_nil,
    Numeral.denotes_chars hWritable, Text.allBlank_nil,
    by simp⟩

/- Numerals that do not show the mark spell their tape. -/
theorem spelled_serializeChars
    {mark : Char}
    {t : Tape}
    (hCells : t.cells ≠ [])
    (hWritable : Numeral.AllWritable t.cells)
    (hApart : ∀ n ∈ t.cells, mark ∉ Numeral.chars n) :
    Spelled mark (serializeChars [mark] t) t.cells := by
  refine
    ⟨[], t.cells.map Numeral.chars, [], ?_,
      Text.allBlank_nil, Text.allBlank_nil, ?_, ?_, ?_⟩
  · rw [List.nil_append, List.append_nil]
    rfl
  · simpa using hCells
  · rw [List.forall_mem_map]
    exact hApart
  · rw [List.forall₂_map_left_iff, List.forall₂_same]
    exact fun n hMember => padded_chars (hWritable n hMember)

/- Which tapes are spelled by their own numerals. -/
theorem spelled_serializeChars_iff
    {mark : Char}
    {t : Tape} :
    Spelled mark (serializeChars [mark] t) t.cells ↔
      t.cells ≠ [] ∧ Numeral.AllWritable t.cells ∧
        ∀ n ∈ t.cells, mark ∉ Numeral.chars n := by
  constructor
  · intro hSpelled
    exact
      ⟨hSpelled.cells_ne_nil, hSpelled.allWritable,
        hSpelled.not_mem_chars⟩
  · rintro ⟨hCells, hWritable, hApart⟩
    exact spelled_serializeChars hCells hWritable hApart

/- The text of a tape, if its cells can be written. -/
theorem serialize_eq_ok_iff
    {t : Tape}
    {mark : Char}
    {s : String} :
    t.serialize (.singleton mark) = .ok s ↔
      Numeral.AllWritable t.cells ∧
        s = String.ofList (serializeChars [mark] t) := by
  rw [serialize, String.toList_singleton]
  split
  · rename_i hWritable
    simp [hWritable, eq_comm]
  · rename_i hWritable
    simp [hWritable]

theorem parse_serializeChars_iff
    {t : Tape}
    {mark : Char} :
    parse (String.ofList (serializeChars [mark] t))
        (.singleton mark) = .ok t ↔
      Spelled mark (serializeChars [mark] t) t.cells := by
  rw [parse_singleton_eq_ok_iff, parseAt_eq_ok_iff,
    String.toList_ofList]

/- The tape is read from the text that is written for it. -/
def RoundTrips
    (t : Tape)
    (mark : Char) : Prop :=
  ∃ s,
    t.serialize (.singleton mark) = .ok s ∧
      parse s (.singleton mark) = .ok t

theorem roundTrips_iff
    {t : Tape}
    {mark : Char} :
    t.RoundTrips mark ↔
      t.cells ≠ [] ∧ Numeral.AllWritable t.cells ∧
        ∀ n ∈ t.cells, mark ∉ Numeral.chars n := by
  rw [← spelled_serializeChars_iff,
    ← parse_serializeChars_iff]
  constructor
  · rintro ⟨s, hWritten, hRead⟩
    rwa [(serialize_eq_ok_iff.mp hWritten).2] at hRead
  · intro hRead
    have hSpelled := parse_serializeChars_iff.mp hRead
    exact
      ⟨_, serialize_eq_ok_iff.mpr ⟨hSpelled.allWritable, rfl⟩,
        hRead⟩

theorem allWritable_iff
    (cells : List Int) :
    Numeral.AllWritable cells ↔
      ∀ n ∈ cells,
        (Numeral.digits n.natAbs).length ≤
          Numeral.maxDigits :=
  forall₂_congr fun n _ => Numeral.writable_iff n

/-
  A tape is read back from its text exactly if it has
  cells, none has too many digits, and the delimiter shows
  in none of them. Only a digit or the minus sign can show.
-/
theorem serialize_parse_iff
    (t : Tape)
    (mark : Char) :
    (t.RoundTrips mark ↔
      t.cells ≠ [] ∧
        (∀ n ∈ t.cells,
          (Numeral.digits n.natAbs).length ≤
            Numeral.maxDigits) ∧
        ∀ n ∈ t.cells, mark ∉ Numeral.chars n) ∧
    (¬ (mark.isDigit = true ∨ mark = '-') →
      (t.RoundTrips mark ↔
        t.cells ≠ [] ∧
          ∀ n ∈ t.cells,
            (Numeral.digits n.natAbs).length ≤
              Numeral.maxDigits)) := by
  rw [← allWritable_iff, roundTrips_iff]
  refine ⟨Iff.rfl, fun hMark => ?_⟩
  have hApart : ∀ n ∈ t.cells, mark ∉ Numeral.chars n :=
    fun n _ hMember =>
      hMark (Numeral.digit_or_minus_of_mem_chars hMember)
  rw [and_iff_left hApart]

------------------------------------------------------------
-- Writing What Was Read
------------------------------------------------------------

/- A program text, read and written again. -/
def normalize
    (text : String)
    (delimiter : String) : Except Failure String :=
  match parse text delimiter with
  | .error e => .error e
  | .ok t => t.serialize delimiter

/- Canonical pieces are the tokens of the text. -/
theorem tokens_of_canonical
    {mark : Char}
    {text : List Char}
    (hCanonical :
      ∀ piece ∈ text.splitOn mark, Canonical piece) :
    tokens mark text = text.splitOn mark := by
  have hStrip :
      ∀ piece ∈ text.splitOn mark,
        Text.strip piece = piece := by
    intro piece hMember
    rcases (hCanonical piece hMember).spells with
      ⟨negative, ds, hSpells⟩
    have hToken :=
      hSpells.strip_padded Text.allBlank_nil Text.allBlank_nil
    rwa [List.nil_append, List.append_nil] at hToken
  have hSolid : Text.Solid mark (text.splitOn mark) := by
    refine ⟨List.splitOn_ne_nil mark text, ?_, ?_⟩
    · rw [← Text.pieces_eq_splitOn]
      exact fun piece => Text.not_mem_of_mem_pieces
    · intro piece hMember
      rcases (hCanonical piece hMember).spells with
        ⟨negative, ds, hSpells⟩
      rw [hStrip piece hMember]
      exact hSpells.ne_nil
  have hTokens :=
    tokens_of_solid Text.allBlank_nil Text.allBlank_nil hSolid
  rw [List.nil_append, List.append_nil,
    List.intercalate_splitOn, List.map_congr_left hStrip,
    List.map_id'] at hTokens
  exact hTokens

/-
  A text that was read is written as it is exactly if its
  pieces are canonical.
-/
theorem serializeChars_eq_iff
    {mark : Char}
    {text : List Char}
    {t : Tape}
    (hSpelled : Spelled mark text t.cells) :
    serializeChars [mark] t = text ↔
      ∀ piece ∈ text.splitOn mark, Canonical piece := by
  constructor
  · intro hSame
    rw [← hSame, ← Text.pieces_eq_splitOn, serializeChars,
      Text.pieces_join]
    · rw [List.forall_mem_map]
      exact fun n _ => Numeral.canonical_chars n
    · simpa using hSpelled.cells_ne_nil
    · rw [List.forall_mem_map]
      exact hSpelled.not_mem_chars
  · intro hCanonical
    have hRead := (spelled_iff.mp hSpelled).2
    rw [tokens_of_canonical hCanonical] at hRead
    have hWritten :
        List.Forall₂ (fun piece n => piece = Numeral.chars n)
          (text.splitOn mark) t.cells := by
      have hBoth :=
        (List.forall₂_and_left _ _).mpr ⟨hCanonical, hRead⟩
      apply hBoth.imp
      rintro piece n ⟨hPiece, hDenotes⟩
      exact (Numeral.chars_of_canonical hPiece hDenotes).symm
    rw [← List.forall₂_map_right_iff, List.forall₂_eq_eq_eq]
      at hWritten
    rw [serializeChars, ← hWritten, Text.join,
      List.intercalate_splitOn]

/-
  A program text that is read is written in normal form,
  which is read alike and written again as it is. The text
  was in normal form exactly if all of its pieces were
  canonical numerals.
-/
theorem parse_serialize
    {text : String}
    {mark : Char}
    {t : Tape}
    (hParse : parse text (.singleton mark) = .ok t) :
    (∀ n ∈ t.cells, mark ∉ Numeral.chars n) ∧
      ∃ s,
        t.serialize (.singleton mark) = .ok s ∧
          parse s (.singleton mark) = .ok t ∧
          normalize text (.singleton mark) = .ok s ∧
          normalize s (.singleton mark) = .ok s ∧
          (s = text ↔
            ∀ piece ∈ text.toList.splitOn mark,
              Canonical piece) := by
  have hSpelled :=
    parseAt_eq_ok_iff.mp (parse_singleton_eq_ok_iff.mp hParse)
  have hWritten :
      t.serialize (.singleton mark) =
        .ok (String.ofList (serializeChars [mark] t)) :=
    serialize_eq_ok_iff.mpr ⟨hSpelled.allWritable, rfl⟩
  have hRead :=
    parse_serializeChars_iff.mpr
      (spelled_serializeChars hSpelled.cells_ne_nil
        hSpelled.allWritable hSpelled.not_mem_chars)
  refine
    ⟨hSpelled.not_mem_chars, _, hWritten, hRead, ?_, ?_,
      ?_⟩
  · rw [normalize, hParse]
    exact hWritten
  · rw [normalize, hRead]
    exact hWritten
  · rw [← serializeChars_eq_iff hSpelled,
      ← String.toList_inj, String.toList_ofList]

/- The mark may be a sign. Blanks and leading zeros go. -/
theorem minus_parse_serialize :
    parse "+07-5\n" (.singleton '-') = .ok ⟨[7, 5]⟩ ∧
      Tape.serialize ⟨[7, 5]⟩ (.singleton '-') = .ok "7-5" ∧
      parse "7-5" (.singleton '-') = .ok ⟨[7, 5]⟩ ∧
      normalize "7-5" (.singleton '-') = .ok "7-5" := by
  have hParse :
      parse "+07-5\n" (.singleton '-') = .ok ⟨[7, 5]⟩ := by
    decide
  rcases parse_serialize hParse with
    ⟨-, s, hWritten, hRead, -, hNormal, -⟩
  have hText : s = "7-5" :=
    (serialize_eq_ok_iff.mp hWritten).2
  subst hText
  exact ⟨hParse, hWritten, hRead, hNormal⟩

end Tape

end IntcodeMachine
