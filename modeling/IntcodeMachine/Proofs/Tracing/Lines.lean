import IntcodeMachine.Machine.Trace
import IntcodeMachine.Proofs.Text.Words
import Mathlib.Data.List.Forall2

/-
  This file proves that a line of a trace shows what it is
  made of.

  Neither a parameter nor a signal shows a blank. So if the
  number of parameters is known, counter, parameters and
  signal can be read back, and what is left are the words of
  the name. The lines of a trace are found in its text if no
  name breaks the line.

  Main declarations:
    * `Trace.Line.Sight`
    * `Trace.Line.read`
    * `Trace.Line.read_render`
    * `Trace.pieces_render`
-/

------------------------------------------------------------
-- Reading Lines
------------------------------------------------------------

namespace IntcodeMachine

namespace Trace

namespace Line

/- What can be read off a line. -/
structure Sight where
  counter : Int
  /- The words of the name. -/
  name : List (List Char)
  parameters : List (Mode × Int)
  signal : Signal
deriving DecidableEq, Repr

/- What can be read off this line. -/
def sight (l : Line) : Sight where
  counter := l.counter
  name := Text.words l.name.toList
  parameters := l.parameters.map fun p => (p.mode, p.raw)
  signal := l.signal

/- The integer of a numeral, with a mark behind it. -/
def readBefore
    (mark : Char)
    (text : List Char) : Option Int :=
  match Text.pieces mark text with
  | [numeral, []] => (Numeral.readToken numeral).toOption
  | _ => none

/- The mode and the word of a parameter. -/
def readParameter :
    List Char → Option (Mode × Int)
| '#' :: numeral =>
    (Numeral.readToken numeral).toOption.map fun n =>
      (.immediate, n)
| '[' :: rest =>
    (readBefore ']' rest).map fun n => (.position, n)
| _ => none

/- A signal, which shows an integer or none. -/
def readSignal (text : List Char) : Option Signal :=
  match Text.pieces '=' text with
  | [verb, rest] =>
      if verb = "Advance(length".toList then
        (readBefore ')' rest).map .advance
      else if verb = "Jump(address".toList then
        (readBefore ')' rest).map .jump
      else none
  | _ =>
      [.halt, .suspend, .unknown].find? fun s =>
        s.render.toList == text

/-
  Read a line that shows so many parameters. They stand
  before the arrow, and the name stands before them.
-/
def read
    (count : Nat)
    (text : List Char) : Option Sight :=
  match (Text.words text).reverse with
  | signal :: arrow :: before =>
      match (before.drop count).reverse with
      | counter :: name =>
          if arrow = ['-', '>'] then do
            let n ← readBefore ':' counter
            let ps ←
              (before.take count).reverse.mapM readParameter
            let s ← readSignal signal
            some ⟨n, name, ps, s⟩
          else none
      | [] => none
  | _ => none

------------------------------------------------------------
-- Parts Read Back
------------------------------------------------------------

variable {l : Line}

theorem readBefore_chars
    {mark : Char}
    {n : Int}
    (hMark : mark ≠ '-' ∧ mark.isDigit = false)
    (hWritable : Numeral.Writable n) :
    readBefore mark (Numeral.chars n ++ [mark]) = some n := by
  rw [readBefore, Text.pieces_append_cons,
    Text.pieces_of_not_mem (Numeral.not_mem_chars hMark n),
    Text.pieces, List.singleton_append]
  dsimp only
  rw [Numeral.readToken_chars hWritable]
  rfl

theorem toList_renderParameter
    (p : Parameter) :
    p.render.toList =
      match p.mode with
      | .immediate => '#' :: Numeral.chars p.raw
      | .position => '[' :: (Numeral.chars p.raw ++ [']']) := by
  unfold Parameter.render
  cases p.mode with
  | immediate => simp [Numeral.toList_render]
  | position => simp [Numeral.toList_render]

theorem readParameter_render
    {p : Parameter}
    (hWritable : Numeral.Writable p.raw) :
    readParameter p.render.toList = some (p.mode, p.raw) := by
  rw [toList_renderParameter]
  cases p.mode with
  | immediate =>
      dsimp only
      rw [readParameter, Numeral.readToken_chars hWritable]
      rfl
  | position =>
      dsimp only
      rw [readParameter, readBefore_chars (by decide) hWritable]
      rfl

/- The signals that show an integer. -/
theorem readSignal_of_verb
    {verb : List Char}
    {n : Int}
    (hVerb : '=' ∉ verb)
    (hWritable : Numeral.Writable n) :
    readSignal (verb ++ '=' :: (Numeral.chars n ++ [')'])) =
      if verb = "Advance(length".toList then
        some (.advance n)
      else if verb = "Jump(address".toList then
        some (.jump n)
      else none := by
  have hRest : '=' ∉ Numeral.chars n ++ [')'] := by
    rw [List.mem_append, not_or]
    exact
      ⟨Numeral.not_mem_chars (by decide) n, by decide⟩
  rw [readSignal, Text.pieces_append_cons,
    Text.pieces_of_not_mem hVerb,
    Text.pieces_of_not_mem hRest, List.singleton_append]
  dsimp only
  rw [readBefore_chars (by decide) hWritable]
  rfl

theorem toList_render_advance
    (n : Int) :
    (Signal.advance n).render.toList =
      "Advance(length".toList ++
        '=' :: (Numeral.chars n ++ [')']) := by
  change
    ("Advance(length=" ++ Numeral.render n ++ ")").toList = _
  rw [String.toList_append, String.toList_append,
    Numeral.toList_render]
  rfl

theorem toList_render_jump
    (n : Int) :
    (Signal.jump n).render.toList =
      "Jump(address".toList ++
        '=' :: (Numeral.chars n ++ [')']) := by
  change
    ("Jump(address=" ++ Numeral.render n ++ ")").toList = _
  rw [String.toList_append, String.toList_append,
    Numeral.toList_render]
  rfl

theorem readSignal_render
    {s : Signal}
    (hWritable : Numeral.AllWritable s.shown) :
    readSignal s.render.toList = some s := by
  cases s with
  | advance n =>
      have hShown : Numeral.Writable n :=
        hWritable n List.mem_cons_self
      rw [toList_render_advance,
        readSignal_of_verb (by decide) hShown, if_pos rfl]
  | jump n =>
      have hShown : Numeral.Writable n :=
        hWritable n List.mem_cons_self
      rw [toList_render_jump,
        readSignal_of_verb (by decide) hShown,
        if_neg (by decide), if_pos rfl]
  | halt => rfl
  | suspend => rfl
  | unknown => rfl

------------------------------------------------------------
-- Words Of Lines
------------------------------------------------------------

variable {c : Char}

/- Blanks and line feeds are not shown by a numeral. -/
theorem not_mem_numeral
    (hBreak : c = ' ' ∨ c = '\n')
    (n : Int) :
    c ∉ Numeral.chars n := by
  rcases hBreak with rfl | rfl
  · exact Numeral.not_mem_chars (by decide) n
  · exact Numeral.not_mem_chars (by decide) n

theorem not_mem_renderParameter
    (hBreak : c = ' ' ∨ c = '\n')
    (p : Parameter) :
    c ∉ p.render.toList := by
  have hNumeral := not_mem_numeral hBreak p.raw
  rw [toList_renderParameter]
  cases p.mode with
  | immediate =>
      rcases hBreak with rfl | rfl
      · simp [hNumeral]
      · simp [hNumeral]
  | position =>
      rcases hBreak with rfl | rfl
      · simp [hNumeral]
      · simp [hNumeral]

theorem not_mem_renderSignal
    (hBreak : c = ' ' ∨ c = '\n')
    (s : Signal) :
    c ∉ s.render.toList := by
  have hInteger
      (verb : List Char)
      (hVerb : c ∉ verb)
      (n : Int) :
      c ∉ verb ++ '=' :: (Numeral.chars n ++ [')']) := by
    have hNumeral := not_mem_numeral hBreak n
    rcases hBreak with rfl | rfl
    · simp [hNumeral, hVerb]
    · simp [hNumeral, hVerb]
  have hConstant
      (text : String)
      (hText : ' ' ∉ text.toList ∧ '\n' ∉ text.toList) :
      c ∉ text.toList := by
    rcases hBreak with rfl | rfl
    · exact hText.1
    · exact hText.2
  cases s with
  | advance n =>
      rw [toList_render_advance]
      exact hInteger _ (hConstant _ (by decide)) n
  | jump n =>
      rw [toList_render_jump]
      exact hInteger _ (hConstant _ (by decide)) n
  | halt => exact hConstant _ (by decide)
  | suspend => exact hConstant _ (by decide)
  | unknown => exact hConstant _ (by decide)

/- A parameter is one word. -/
theorem words_renderParameter
    (p : Parameter) :
    Text.words p.render.toList = [p.render.toList] := by
  refine
    Text.words_of_not_mem ?_
      (not_mem_renderParameter (Or.inl rfl) p)
  rw [toList_renderParameter]
  cases p.mode with
  | immediate => exact List.cons_ne_nil _ _
  | position => exact List.cons_ne_nil _ _

theorem words_renderParameters
    (l : Line) :
    Text.words l.renderParameters =
      l.parameters.map fun p => p.render.toList := by
  rw [renderParameters, Text.words_join, List.flatMap_map]
  simp only [words_renderParameter]
  exact List.map_eq_flatMap.symm

/- So is a signal. -/
theorem words_renderSignal
    (s : Signal) :
    Text.words s.render.toList = [s.render.toList] := by
  refine
    Text.words_of_not_mem ?_
      (not_mem_renderSignal (Or.inl rfl) s)
  cases s with
  | advance n =>
      rw [toList_render_advance]
      exact List.cons_ne_nil _ _
  | jump n =>
      rw [toList_render_jump]
      exact List.cons_ne_nil _ _
  | halt => decide
  | suspend => decide
  | unknown => decide

/- So is the counter with its colon. -/
theorem words_counter
    (n : Int) :
    Text.words
        (Text.padStart 5 (Numeral.chars n) ++ [':']) =
      [Numeral.chars n ++ [':']] := by
  rw [Text.padStart_append, Text.words_padStart]
  refine Text.words_of_not_mem (by simp) ?_
  rw [List.mem_append, not_or]
  exact ⟨not_mem_numeral (Or.inl rfl) n, by decide⟩

/- A line, cut at the blanks around its columns. -/
theorem toList_render
    (l : Line) :
    l.render.toList =
      (Text.padStart 5 (Numeral.chars l.counter) ++ [':']) ++
        ' ' :: (Text.padEnd 5 l.name.toList ++
          ' ' :: (Text.padEnd 24 l.renderParameters ++
            ' ' :: (['-', '>'] ++
              ' ' :: l.signal.render.toList))) := by
  rw [render, String.toList_ofList]
  simp only [List.append_assoc, List.cons_append,
    List.nil_append]

theorem words_render
    (l : Line) :
    Text.words l.render.toList =
      (Numeral.chars l.counter ++ [':']) ::
        (Text.words l.name.toList ++
          (l.parameters.map (fun p => p.render.toList) ++
            [['-', '>'], l.signal.render.toList])) := by
  rw [toList_render]
  simp only [Text.words_append, words_counter,
    Text.words_padEnd, words_renderParameters,
    words_renderSignal]
  rfl

------------------------------------------------------------
-- Lines Read Back
------------------------------------------------------------

theorem mapM_readParameter
    {ps : List Parameter}
    (hWritable : Numeral.AllWritable (ps.map Parameter.raw)) :
    (ps.map fun p => p.render.toList).mapM readParameter =
      some (ps.map fun p => (p.mode, p.raw)) := by
  induction ps with
  | nil => rfl
  | cons p rest ih =>
      rcases List.forall_mem_cons.mp hWritable with
        ⟨hFirst, hRest⟩
      rw [List.map_cons, List.mapM_cons,
        readParameter_render hFirst, ih hRest]
      rfl

/- A line that can be written is read back from its text. -/
theorem read_render
    (hWritable : l.Writable) :
    read l.parameters.length l.render.toList =
      some l.sight := by
  rcases List.forall_mem_cons.mp hWritable with
    ⟨hCounter, hRest⟩
  rcases List.forall_mem_append.mp hRest with
    ⟨hParameters, hSignal⟩
  have hReversed :
      (Text.words l.render.toList).reverse =
        l.signal.render.toList :: ['-', '>'] ::
          ((l.parameters.map fun p => p.render.toList).reverse ++
            ((Numeral.chars l.counter ++ [':']) ::
              Text.words l.name.toList).reverse) := by
    rw [words_render]
    simp
  have hCount :
      (l.parameters.map fun p =>
        p.render.toList).reverse.length =
          l.parameters.length := by
    rw [List.length_reverse, List.length_map]
  rw [read, hReversed]
  dsimp only
  rw [List.drop_left' hCount, List.take_left' hCount,
    List.reverse_reverse, List.reverse_reverse]
  dsimp only
  rw [if_pos rfl, readBefore_chars (by decide) hCounter,
    mapM_readParameter hParameters,
    readSignal_render hSignal]
  rfl

/- A line does not break if its name does not. -/
theorem not_mem_render
    (hName : '\n' ∉ l.name.toList) :
    '\n' ∉ l.render.toList := by
  have hSpaced
      (left right : List Char)
      (hLeft : '\n' ∉ left)
      (hRight : '\n' ∉ right) :
      '\n' ∉ left ++ ' ' :: right := by
    simp [hLeft, hRight]
  rw [toList_render]
  refine
    hSpaced _ _ ?_ (hSpaced _ _ ?_ (hSpaced _ _ ?_
      (hSpaced _ _ (by decide)
        (not_mem_renderSignal (Or.inr rfl) _))))
  · rw [Text.padStart_append]
    intro hMember
    rcases Text.mem_padStart hMember with hBlank | hMember
    · exact absurd hBlank (by decide)
    · rcases List.mem_append.mp hMember with hMember | hColon
      · exact not_mem_numeral (Or.inr rfl) _ hMember
      · exact absurd (List.mem_singleton.mp hColon) (by decide)
  · intro hMember
    rcases Text.mem_padEnd hMember with hMember | hBlank
    · exact hName hMember
    · exact absurd hBlank (by decide)
  · intro hMember
    rcases Text.mem_padEnd hMember with hMember | hBlank
    · rcases Text.mem_join hMember with hSame | ⟨part, hPart, hIn⟩
      · exact absurd (List.mem_singleton.mp hSame) (by decide)
      · rcases List.mem_map.mp hPart with ⟨p, -, rfl⟩
        exact not_mem_renderParameter (Or.inr rfl) p hIn
    · exact absurd hBlank (by decide)

end Line

/- The lines of a trace are found again in its text. -/
theorem pieces_render
    {ls : List Line}
    (hLines : ls ≠ [])
    (hNames : ∀ l ∈ ls, '\n' ∉ l.name.toList) :
    Text.pieces '\n' (render ls).toList =
      ls.map fun l => l.render.toList := by
  have hText :
      (render ls).toList =
        Text.join ['\n'] (ls.map fun l => l.render.toList) := by
    rw [render, Text.joinStrings, String.toList_ofList,
      List.map_map]
    rfl
  rw [hText]
  refine Text.pieces_join (by simpa using hLines) ?_
  rw [List.forall_mem_map]
  exact fun l hMember => Line.not_mem_render (hNames l hMember)

end Trace

end IntcodeMachine
