import IntcodeMachine.Proofs.Semantics.Assembly
import IntcodeMachine.Proofs.Simulation.Collection
import IntcodeMachine.Proofs.Tape.RoundTrip

/-
  This file proves what seven sample programs compute.

  Each takes one integer, compares it and puts out the
  answer. All of them write to their own memory, and some to
  their own code, so a program is a list of integers with
  the cells that change as parameters. It is executed line
  by line, whatever the integer; where a jump depends on the
  integer, the proof splits as the program does.

  Main declarations:
    * `Config.Answers`
    * `Sample`
    * `Sample.answers`
    * `Program.Computes`
    * `Sample.computes`
-/

------------------------------------------------------------
-- Answers
------------------------------------------------------------

namespace IntcodeMachine

namespace Semantics

namespace Config

/- A configuration that has taken its only input. -/
def fed
    (memory : List Int)
    (pc : Nat)
    (outputs : List Int) : Config :=
  ⟨memory, pc, [], 1, outputs⟩

/-
  The program comes to a halt from here. It has then taken
  one input, which was the last, and put out one integer.
-/
def Answers
    (c : Config)
    (n : Int) : Prop :=
  ∃ c', Relation.ReflTransGen Step c c' ∧ c'.Halts ∧
    c'.inputs = [] ∧ c'.taken = 1 ∧ c'.outputs = [n]

variable {memory : List Int} {pc : Nat} {n : Int}

theorem Answers.of_step
    {c c' : Config}
    (hStep : c.Step c')
    (hAnswers : c'.Answers n) :
    c.Answers n := by
  rcases hAnswers with ⟨last, hChain, hEnd⟩
  exact ⟨last, .head hStep hChain, hEnd⟩

/- A program that halts answers with what it has put out. -/
theorem answers_of_halt
    (hHalt : (fed memory pc [n]).Bears .halt) :
    (fed memory pc [n]).Answers n :=
  ⟨_, .refl, hHalt.halts, rfl, rfl, rfl⟩

/- It answers with what it puts out before it halts. -/
theorem answers_of_output
    {a : Argument}
    (hOutput : (fed memory pc []).Bears (.output a))
    (hValue : a.value? memory = some n)
    (hHalt : (fed memory (pc + 2) [n]).Bears .halt) :
    (fed memory pc []).Answers n :=
  .of_step (hOutput.output a hValue) (answers_of_halt hHalt)

end Config

open Config

------------------------------------------------------------
-- Tests Of One Function
------------------------------------------------------------

/-
  Compare the input with a bound. The input is put into a
  cell behind the code, and then the truth value.
-/
def positionTest
    (f : Calculation)
    (cell bound : Int) : List Int :=
  [3, 9, f.number, 9, 10, 9, 4, 9, 99, cell, bound]

theorem positionTest_answers
    (f : Calculation)
    (cell bound v : Int) :
    (Config.initial (positionTest f cell bound)
      [v]).Answers (f.apply v bound) := by
  have hInput :
      Step (.initial (positionTest f cell bound) [v])
        (fed (positionTest f v bound) 2 []) :=
    Bears.input 9 ⟨_, rfl⟩ rfl rfl
  have hTest :
      Step (fed (positionTest f v bound) 2 [])
        (fed (positionTest f (f.apply v bound) bound) 6
          []) :=
    Bears.calculate f (.cell 9) (.cell 10) 9 ⟨_, rfl⟩ rfl rfl
      rfl
  have hEnd :
      (fed (positionTest f (f.apply v bound) bound) 6
        []).Answers (f.apply v bound) :=
    answers_of_output (a := .cell 9) ⟨_, rfl⟩ rfl ⟨_, rfl⟩
  exact .of_step hInput (.of_step hTest hEnd)

/-
  Compare the input with a bound. The input is put into the
  instruction that compares it, and then the truth value.
-/
def immediateTest
    (f : Calculation)
    (cell bound : Int) : List Int :=
  [3, 3, (f.number + 1100 : Nat), cell, bound, 3, 4, 3, 99]

theorem immediateTest_answers
    (f : Calculation)
    (cell bound v : Int) :
    (Config.initial (immediateTest f cell bound)
      [v]).Answers (f.apply v bound) := by
  have hInput :
      Step (.initial (immediateTest f cell bound) [v])
        (fed (immediateTest f v bound) 2 []) :=
    Bears.input 3 ⟨_, rfl⟩ rfl rfl
  have hTest :
      Step (fed (immediateTest f v bound) 2 [])
        (fed (immediateTest f (f.apply v bound) bound) 6
          []) :=
    Bears.calculate f (.literal v) (.literal bound) 3
      ⟨_, rfl⟩ rfl rfl rfl
  have hEnd :
      (fed (immediateTest f (f.apply v bound) bound) 6
        []).Answers (f.apply v bound) :=
    answers_of_output (a := .cell 3) ⟨_, rfl⟩ rfl ⟨_, rfl⟩
  exact .of_step hInput (.of_step hTest hEnd)

------------------------------------------------------------
-- Jumps
------------------------------------------------------------

/-
  Jump over an addition if the input is zero. The input is
  put into one cell; the other holds the answer.
-/
def positionJump (cell answer : Int) : List Int :=
  [3, 12, 6, 12, 15, 1, 13, 14, 13, 4, 13, 99, cell, answer,
    1, 9]

theorem positionJump_answers
    (cell v : Int) :
    (Config.initial (positionJump cell 0) [v]).Answers
      (if v = 0 then 0 else 1) := by
  have hInput :
      Step (.initial (positionJump cell 0) [v])
        (fed (positionJump v 0) 2 []) :=
    Bears.input 12 ⟨_, rfl⟩ rfl rfl
  have hEnd (answer : Int) :
      (fed (positionJump v answer) 9 []).Answers answer :=
    answers_of_output (a := .cell 13) ⟨_, rfl⟩ rfl ⟨_, rfl⟩
  by_cases hZero : v = 0
  · have hJump :
        Step (fed (positionJump v 0) 2 [])
          (fed (positionJump v 0) 9 []) :=
      Bears.jump .zero (.cell 12) (.cell 15) 9 ⟨_, rfl⟩ rfl
        rfl rfl hZero
    rw [if_pos hZero]
    exact .of_step hInput (.of_step hJump (hEnd 0))
  · have hPass :
        Step (fed (positionJump v 0) 2 [])
          (fed (positionJump v 0) 5 []) :=
      Bears.pass .zero (.cell 12) (.cell 15) ⟨_, rfl⟩ rfl
        hZero
    have hAdd :
        Step (fed (positionJump v 0) 5 [])
          (fed (positionJump v (0 + 1)) 9 []) :=
      Bears.calculate .add (.cell 13) (.cell 14) 13 ⟨_, rfl⟩
        rfl rfl rfl
    rw [if_neg hZero]
    exact
      .of_step hInput
        (.of_step hPass (.of_step hAdd (hEnd (0 + 1))))

/-
  Jump over a reset of the answer unless the input is zero.
  The input is put into the jump itself.
-/
def immediateJump (cell answer : Int) : List Int :=
  [3, 3, 1105, cell, 9, 1101, 0, 0, 12, 4, 12, 99, answer]

theorem immediateJump_answers
    (cell v : Int) :
    (Config.initial (immediateJump cell 1) [v]).Answers
      (if v = 0 then 0 else 1) := by
  have hInput :
      Step (.initial (immediateJump cell 1) [v])
        (fed (immediateJump v 1) 2 []) :=
    Bears.input 3 ⟨_, rfl⟩ rfl rfl
  have hEnd (answer : Int) :
      (fed (immediateJump v answer) 9 []).Answers answer :=
    answers_of_output (a := .cell 12) ⟨_, rfl⟩ rfl ⟨_, rfl⟩
  by_cases hZero : v = 0
  · have hPass :
        Step (fed (immediateJump v 1) 2 [])
          (fed (immediateJump v 1) 5 []) :=
      Bears.pass .nonzero (.literal v) (.literal 9) ⟨_, rfl⟩
        rfl (not_not_intro hZero)
    have hReset :
        Step (fed (immediateJump v 1) 5 [])
          (fed (immediateJump v (0 + 0)) 9 []) :=
      Bears.calculate .add (.literal 0) (.literal 0) 12
        ⟨_, rfl⟩ rfl rfl rfl
    rw [if_pos hZero]
    exact
      .of_step hInput
        (.of_step hPass (.of_step hReset (hEnd (0 + 0))))
  · have hJump :
        Step (fed (immediateJump v 1) 2 [])
          (fed (immediateJump v 1) 9 []) :=
      Bears.jump .nonzero (.literal v) (.literal 9) 9
        ⟨_, rfl⟩ rfl rfl rfl hZero
    rw [if_neg hZero]
    exact .of_step hInput (.of_step hJump (hEnd 1))

------------------------------------------------------------
-- Three Ways
------------------------------------------------------------

/-
  Put out another integer below, at and above eight. One
  cell holds the truth values and the answers, the other one
  the input.
-/
def threeWays (scratch cell : Int) : List Int :=
  [3, 21, 1008, 21, 8, 20, 1005, 20, 22, 107, 8, 21, 20,
    1006, 20, 31, 1106, 0, 36, 98, scratch, cell, 1002, 21,
    125, 20, 4, 20, 1105, 1, 46, 104, 999, 1105, 1, 46,
    1101, 1000, 1, 20, 4, 20, 1105, 1, 46, 98, 99]

namespace threeWays

variable (v : Int)

/- Every way leaves by the same jump to the end. -/
theorem answers_of_leave
    {scratch n : Int}
    {pc : Nat}
    (hLeave :
      (fed (threeWays scratch v) pc [n]).Bears
        (.jump .nonzero (.literal 1) (.literal 46))) :
    (fed (threeWays scratch v) pc [n]).Answers n := by
  have hJump :
      Step (fed (threeWays scratch v) pc [n])
        (fed (threeWays scratch v) 46 [n]) :=
    hLeave.jump .nonzero (.literal 1) (.literal 46) 46 rfl
      rfl rfl Int.one_ne_zero
  exact .of_step hJump (answers_of_halt ⟨_, rfl⟩)

/- If the input is eight, it is multiplied. -/
theorem answers_at :
    (fed (threeWays 1 v) 6 []).Answers (v * 125) := by
  have hJump :
      Step (fed (threeWays 1 v) 6 [])
        (fed (threeWays 1 v) 22 []) :=
    Bears.jump .nonzero (.cell 20) (.literal 22) 22 ⟨_, rfl⟩
      rfl rfl rfl Int.one_ne_zero
  have hMultiply :
      Step (fed (threeWays 1 v) 22 [])
        (fed (threeWays (v * 125) v) 26 []) :=
    Bears.calculate .multiply (.cell 21) (.literal 125) 20
      ⟨_, rfl⟩ rfl rfl rfl
  have hOutput :
      Step (fed (threeWays (v * 125) v) 26 [])
        (fed (threeWays (v * 125) v) 28 [v * 125]) :=
    Bears.output (.cell 20) ⟨_, rfl⟩ rfl
  exact
    .of_step hJump
      (.of_step hMultiply
        (.of_step hOutput (answers_of_leave v ⟨_, rfl⟩)))

/- If it is below, a literal is put out. -/
theorem answers_below :
    (fed (threeWays 0 v) 13 []).Answers 999 := by
  have hJump :
      Step (fed (threeWays 0 v) 13 [])
        (fed (threeWays 0 v) 31 []) :=
    Bears.jump .zero (.cell 20) (.literal 31) 31 ⟨_, rfl⟩ rfl
      rfl rfl rfl
  have hOutput :
      Step (fed (threeWays 0 v) 31 [])
        (fed (threeWays 0 v) 33 [999]) :=
    Bears.output (.literal 999) ⟨_, rfl⟩ rfl
  exact
    .of_step hJump
      (.of_step hOutput (answers_of_leave v ⟨_, rfl⟩))

/- If it is above, a sum of literals is put out. -/
theorem answers_above :
    (fed (threeWays 1 v) 13 []).Answers (1000 + 1) := by
  have hPass :
      Step (fed (threeWays 1 v) 13 [])
        (fed (threeWays 1 v) 16 []) :=
    Bears.pass .zero (.cell 20) (.literal 31) ⟨_, rfl⟩ rfl
      Int.one_ne_zero
  have hJump :
      Step (fed (threeWays 1 v) 16 [])
        (fed (threeWays 1 v) 36 []) :=
    Bears.jump .zero (.literal 0) (.literal 36) 36 ⟨_, rfl⟩
      rfl rfl rfl rfl
  have hAdd :
      Step (fed (threeWays 1 v) 36 [])
        (fed (threeWays (1000 + 1) v) 40 []) :=
    Bears.calculate .add (.literal 1000) (.literal 1) 20
      ⟨_, rfl⟩ rfl rfl rfl
  have hOutput :
      Step (fed (threeWays (1000 + 1) v) 40 [])
        (fed (threeWays (1000 + 1) v) 42 [1000 + 1]) :=
    Bears.output (.cell 20) ⟨_, rfl⟩ rfl
  exact
    .of_step hPass
      (.of_step hJump
        (.of_step hAdd
          (.of_step hOutput (answers_of_leave v ⟨_, rfl⟩))))

/- The input is first compared for equality. -/
theorem answers_of_equals
    {n : Int}
    (hAnswers :
      (fed (threeWays (Calculation.equals.apply v 8) v) 6
        []).Answers n) :
    (Config.initial (threeWays 0 0) [v]).Answers n := by
  have hInput :
      Step (.initial (threeWays 0 0) [v])
        (fed (threeWays 0 v) 2 []) :=
    Bears.input 21 ⟨_, rfl⟩ rfl rfl
  have hEquals :
      Step (fed (threeWays 0 v) 2 [])
        (fed (threeWays (Calculation.equals.apply v 8) v) 6
          []) :=
    Bears.calculate .equals (.cell 21) (.literal 8) 20
      ⟨_, rfl⟩ rfl rfl rfl
  exact .of_step hInput (.of_step hEquals hAnswers)

/- If it is not equal, eight is compared with it. -/
theorem answers_of_lessThan
    {n : Int}
    (hAnswers :
      (fed (threeWays (Calculation.lessThan.apply 8 v) v) 13
        []).Answers n) :
    (fed (threeWays 0 v) 6 []).Answers n := by
  have hPass :
      Step (fed (threeWays 0 v) 6 [])
        (fed (threeWays 0 v) 9 []) :=
    Bears.pass .nonzero (.cell 20) (.literal 22) ⟨_, rfl⟩ rfl
      (not_not_intro rfl)
  have hLess :
      Step (fed (threeWays 0 v) 9 [])
        (fed (threeWays (Calculation.lessThan.apply 8 v) v)
          13 []) :=
    Bears.calculate .lessThan (.literal 8) (.cell 21) 20
      ⟨_, rfl⟩ rfl rfl rfl
  exact .of_step hPass (.of_step hLess hAnswers)

theorem answers :
    (Config.initial (threeWays 0 0) [v]).Answers
      (if v < 8 then 999 else if v = 8 then 1000 else 1001) := by
  apply answers_of_equals
  by_cases hEqual : v = 8
  · have hOne : Calculation.equals.apply v 8 = 1 :=
      if_pos hEqual
    rw [hOne, if_neg (by omega), if_pos hEqual, hEqual]
    exact answers_at 8
  · have hZero : Calculation.equals.apply v 8 = 0 :=
      if_neg hEqual
    rw [hZero]
    apply answers_of_lessThan
    by_cases hBelow : v < 8
    · have hNot : Calculation.lessThan.apply 8 v = 0 :=
        if_neg (by omega)
      rw [hNot, if_pos hBelow]
      exact answers_below v
    · have hAbove : Calculation.lessThan.apply 8 v = 1 :=
        if_pos (by omega)
      rw [hAbove, if_neg hBelow, if_neg hEqual]
      exact answers_above v

end threeWays

end Semantics

open Semantics

------------------------------------------------------------
-- Sample Programs
------------------------------------------------------------

/- The sample programs, by what they do and how. -/
inductive Sample where
| positionEqual
| positionLess
| immediateEqual
| immediateLess
| positionJump
| immediateJump
| threeWays
deriving DecidableEq, Repr

namespace Sample

/- The text of a sample. -/
def text : Sample → String
| positionEqual => "3,9,8,9,10,9,4,9,99,-1,8"
| positionLess => "3,9,7,9,10,9,4,9,99,-1,8"
| immediateEqual => "3,3,1108,-1,8,3,4,3,99"
| immediateLess => "3,3,1107,-1,8,3,4,3,99"
| positionJump => "3,12,6,12,15,1,13,14,13,4,13,99,-1,0,1,9"
| immediateJump => "3,3,1105,-1,9,1101,0,0,12,4,12,99,1"
| threeWays =>
    "3,21,1008,21,8,20,1005,20,22,107,8,21,20,1006,20,31," ++
      "1106,0,36,98,0,0,1002,21,125,20,4,20,1105,1,46,104," ++
      "999,1105,1,46,1101,1000,1,20,4,20,1105,1,46,98,99"

/- The integers of a sample. -/
def cells : Sample → List Int
| positionEqual => positionTest .equals (-1) 8
| positionLess => positionTest .lessThan (-1) 8
| immediateEqual => immediateTest .equals (-1) 8
| immediateLess => immediateTest .lessThan (-1) 8
| positionJump => Semantics.positionJump (-1) 0
| immediateJump => Semantics.immediateJump (-1) 1
| threeWays => Semantics.threeWays 0 0

/- What a sample makes of an integer. -/
def answer : Sample → Int → Int
| positionEqual, v => if v = 8 then 1 else 0
| positionLess, v => if v < 8 then 1 else 0
| immediateEqual, v => if v = 8 then 1 else 0
| immediateLess, v => if v < 8 then 1 else 0
| positionJump, v => if v = 0 then 0 else 1
| immediateJump, v => if v = 0 then 0 else 1
| threeWays, v =>
    if v < 8 then 999 else if v = 8 then 1000 else 1001

theorem text_eq_serializeChars
    (s : Sample) :
    s.text =
      String.ofList (Tape.serializeChars [','] ⟨s.cells⟩) := by
  cases s <;> decide +kernel

/- What is written for the integers is read back as them. -/
theorem parse_text
    (s : Sample) :
    Tape.parse s.text Tape.standardDelimiter =
      .ok ⟨s.cells⟩ := by
  have hCells : s.cells ≠ [] := by
    cases s <;> exact List.cons_ne_nil _ _
  have hWritable : Numeral.AllWritable s.cells := by
    cases s <;> decide +kernel
  have hApart : ∀ n ∈ s.cells, ',' ∉ Numeral.chars n := by
    intro n _ hComma
    have hMark := Numeral.digit_or_minus_of_mem_chars hComma
    exact absurd hMark (by decide)
  rw [text_eq_serializeChars]
  exact
    Tape.parse_serializeChars_iff.mpr
      (Tape.spelled_serializeChars hCells hWritable hApart)

/- By the rules, a sample answers every integer. -/
theorem answers
    (s : Sample)
    (v : Int) :
    (Config.initial s.cells [v]).Answers (s.answer v) := by
  cases s with
  | positionEqual => exact positionTest_answers _ _ _ v
  | positionLess => exact positionTest_answers _ _ _ v
  | immediateEqual => exact immediateTest_answers _ _ _ v
  | immediateLess => exact immediateTest_answers _ _ _ v
  | positionJump => exact positionJump_answers _ v
  | immediateJump => exact immediateJump_answers _ v
  | threeWays => exact threeWays.answers v

end Sample

------------------------------------------------------------
-- Runs Of Programs
------------------------------------------------------------

namespace Program

/-
  Run on any integer, the program takes it, puts out the
  value of the function and nothing else, and halts. There
  is a budget for it, and more makes no difference.
-/
def Computes
    (p : Program)
    (f : Int → Int) : Prop :=
  ∀ (v : Int) (h : Host), ∃ budget m h',
    (∀ extra,
      Collect.run (budget + extra) p (some [.int v])
          .onConsole h =
        some (.ok ⟨m, [f v]⟩, h')) ∧
      m.state = .halted ∧
      h'.scripts[h.scripts.length]? = some ⟨[], 1⟩

/- A program computes what the rules let it answer. -/
theorem computes_of_answers
    {p : Program}
    {memory : List Int}
    {f : Int → Int}
    (hLoad :
      p.load Tape.standardDelimiter = .ok ⟨memory⟩)
    (hAnswers :
      ∀ v, (Config.initial memory [v]).Answers (f v)) :
    p.Computes f := by
  intro v h
  rcases hAnswers v with
    ⟨c, hChain, hHalts, hInputs, hTaken, hOutputs⟩
  rcases (Config.exists_steps_iff _ _).mpr hChain with
    ⟨n, hSteps⟩
  rcases Collect.run_of_steps hLoad hSteps hHalts h with
    ⟨budget, m, h', hRun, hHalted, -, hScript⟩
  rw [hOutputs] at hRun
  rw [hInputs, hTaken] at hScript
  exact ⟨budget, m, h', hRun, hHalted, hScript⟩

end Program

/-
  A sample computes its answer on every integer, whether its
  text is run or the list of its integers.
-/
theorem Sample.computes
    (s : Sample) :
    (Program.text s.text).Computes s.answer ∧
      (Program.values (s.cells.map .int)).Computes
        s.answer := by
  have hText :
      (Program.text s.text).load Tape.standardDelimiter =
        .ok ⟨s.cells⟩ :=
    s.parse_text
  exact
    ⟨Program.computes_of_answers hText s.answers,
      Program.computes_of_answers
        (Program.load_integers _ _) s.answers⟩

end IntcodeMachine
