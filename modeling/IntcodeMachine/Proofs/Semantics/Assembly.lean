import IntcodeMachine.Proofs.Semantics.Checks
import Mathlib.Logic.Relation

/-
  This file describes instructions as a programmer writes
  them, and says what a line of a program does where its
  words stand in the memory.

  An argument is a cell or a literal. The words of a line
  are its code, which has the number of the instruction and
  the modes of the arguments, and the words of the arguments
  themselves. A line that stands at the counter decodes to
  its instruction, and the rules of the language then apply
  to what its arguments stand for. So a program is executed
  line by line without decoding a word again.

  Main declarations:
    * `Line`
    * `Line.words`
    * `Config.Bears`
    * `Config.Bears.decodes`
    * `Config.Bears.calculate`
    * `Config.Bears.input`
    * `Config.Bears.output`
    * `Config.Bears.jump`
    * `Config.Bears.pass`
    * `Config.exists_steps_iff`
-/

------------------------------------------------------------
-- Arguments
------------------------------------------------------------

namespace IntcodeMachine

namespace Semantics

/- The number of a function's instruction. -/
def Calculation.number : Calculation → Nat
| .add => 1
| .multiply => 2
| .lessThan => 7
| .equals => 8

theorem Calculation.number_lt
    (f : Calculation) :
    f.number < 100 := by
  cases f <;> decide

/- The number of a jump's instruction. -/
def Condition.number : Condition → Nat
| .nonzero => 5
| .zero => 6

theorem Condition.number_lt
    (t : Condition) :
    t.number < 100 := by
  cases t <;> decide

/- An argument as a programmer writes it. -/
inductive Argument where
| cell (address : Nat)
| literal (n : Int)
deriving DecidableEq, Repr

namespace Argument

/- The digit of the argument's mode. -/
def digit : Argument → Nat
| cell _ => 0
| literal _ => 1

/- The word of the argument. -/
def word : Argument → Int
| cell address => address
| literal n => n

/- What the argument stands for, if it has a cell for it. -/
def value?
    (memory : List Int) : Argument → Option Int
| cell address => memory[address]?
| literal n => some n

theorem digit_le_one
    (a : Argument) :
    a.digit ≤ 1 := by
  cases a with
  | cell _ => exact Nat.zero_le 1
  | literal _ => exact Nat.le_refl 1

end Argument

------------------------------------------------------------
-- Lines
------------------------------------------------------------

/- An instruction with its arguments. -/
inductive Line where
| calculate
    (f : Calculation)
    (a b : Argument)
    (target : Nat)
| jump
    (t : Condition)
    (a b : Argument)
| input (target : Nat)
| output (a : Argument)
| halt
deriving DecidableEq, Repr

namespace Line

/- The instruction of the line. -/
def op : Line → Op
| calculate f _ _ _ => .calculate f
| jump t _ _ => .jump t
| input _ => .input
| output _ => .output
| halt => .halt

/- The arguments of the line; a target is a cell. -/
def arguments : Line → List Argument
| calculate _ a b target => [a, b, .cell target]
| jump _ a b => [a, b]
| input target => [.cell target]
| output a => [a]
| halt => []

/- A number with the modes of two arguments before it. -/
def coded (number : Nat) : Argument → Argument → Nat
| .cell _, .cell _ => number
| .literal _, .cell _ => number + 100
| .cell _, .literal _ => number + 1000
| .literal _, .literal _ => number + 1100

/- The code of the line, its first word. -/
def code : Line → Nat
| calculate f a b _ => coded f.number a b
| jump t a b => coded t.number a b
| input _ => 3
| output a => coded 4 a (.cell 0)
| halt => 99

/- The words of the line. -/
def words (l : Line) : List Int :=
  l.code :: l.arguments.map Argument.word

theorem length_arguments
    (l : Line) :
    l.arguments.length = l.op.arity := by
  cases l <;> rfl

theorem length_words
    (l : Line) :
    l.words.length = l.op.arity + 1 := by
  rw [words, List.length_cons, List.length_map,
    length_arguments]

/- The digits of a code are its number and the modes. -/
theorem coded_eq
    (number : Nat)
    (a b : Argument) :
    coded number a b =
      number + 100 * a.digit + 1000 * b.digit := by
  cases a <;> cases b <;>
    simp [coded, Argument.digit, Nat.add_assoc]

section

variable {number : Nat} (hNumber : number < 100)
variable (a b : Argument)

include hNumber

theorem coded_mod :
    coded number a b % 100 = number := by
  rw [coded_eq]
  omega

theorem coded_first :
    coded number a b / 100 % 10 = a.digit := by
  have hDigit := a.digit_le_one
  rw [coded_eq]
  omega

theorem coded_second :
    coded number a b / 1000 % 10 = b.digit := by
  have hFirst := a.digit_le_one
  have hSecond := b.digit_le_one
  rw [coded_eq]
  omega

theorem coded_third :
    coded number a b / 10000 % 10 = 0 := by
  have hFirst := a.digit_le_one
  have hSecond := b.digit_le_one
  rw [coded_eq]
  omega

end

/- The code of a line stands for its instruction. -/
theorem ofNumber?_code
    (l : Line) :
    Op.ofNumber? (l.code % 100) = some l.op := by
  cases l with
  | calculate f a b target =>
      rw [code, coded_mod f.number_lt]
      cases f <;> rfl
  | jump t a b =>
      rw [code, coded_mod t.number_lt]
      cases t <;> rfl
  | input target => rfl
  | output a =>
      rw [code, coded_mod (by decide)]
      rfl
  | halt => rfl

/- The mode of an argument is a digit of the code. -/
theorem digit_code
    {l : Line}
    {p : Nat}
    {a : Argument}
    (hArgument : l.arguments[p]? = some a) :
    l.code / Nat.pow 10 (p + 2) % 10 = a.digit := by
  cases l with
  | calculate f _ _ target =>
      rcases p with _ | _ | _ | p
      · cases hArgument
        exact coded_first f.number_lt _ _
      · cases hArgument
        exact coded_second f.number_lt _ _
      · cases hArgument
        exact coded_third f.number_lt _ _
      · simp [arguments] at hArgument
  | jump t _ _ =>
      rcases p with _ | _ | p
      · cases hArgument
        exact coded_first t.number_lt _ _
      · cases hArgument
        exact coded_second t.number_lt _ _
      · simp [arguments] at hArgument
  | input target =>
      rcases p with _ | p
      · cases hArgument
        exact (by decide : 3 / Nat.pow 10 2 % 10 = 0)
      · simp [arguments] at hArgument
  | output _ =>
      rcases p with _ | p
      · cases hArgument
        exact coded_first (by decide) _ _
      · simp [arguments] at hArgument
  | halt => simp [arguments] at hArgument

end Line

------------------------------------------------------------
-- Lines In The Memory
------------------------------------------------------------

namespace Config

/- The words of the line stand at the counter. -/
def Bears
    (c : Config)
    (l : Line) : Prop :=
  l.words <+: c.memory.drop c.pc

namespace Bears

variable {c : Config} {l : Line}

/- What the memory has at the counter is the line. -/
theorem getD_eq
    (hBears : c.Bears l)
    {i : Nat}
    {w : Int}
    (hWord : l.words[i]? = some w) :
    c.memory.getD (c.pc + i) 0 = w := by
  rcases hBears with ⟨rest, hRest⟩
  have hCell : c.memory[c.pc + i]? = some w := by
    have hBound := (List.getElem?_eq_some_iff.mp hWord).1
    rw [← List.getElem?_drop, ← hRest,
      List.getElem?_append_left hBound]
    exact hWord
  rw [List.getD_eq_getElem?_getD, hCell]
  rfl

theorem word_eq
    (hBears : c.Bears l) :
    c.word = l.code :=
  hBears.getD_eq (i := 0) rfl

/- The memory has all words of the line. -/
theorem fits
    (hBears : c.Bears l) :
    c.pc + l.op.arity < c.memory.length := by
  have hLength := hBears.length_le
  rw [Line.length_words, List.length_drop] at hLength
  omega

section

variable {p : Nat} {a : Argument}

theorem raw_eq
    (hBears : c.Bears l)
    (hArgument : l.arguments[p]? = some a) :
    c.raw p = a.word := by
  have hWord : l.words[p + 1]? = some a.word := by
    simp [Line.words, hArgument]
  rw [raw, Nat.add_assoc, Nat.add_comm 1 p]
  exact hBears.getD_eq hWord

theorem modeDigit_eq
    (hBears : c.Bears l)
    (hArgument : l.arguments[p]? = some a) :
    c.modeDigit p = a.digit := by
  rw [modeDigit, hBears.word_eq, Int.toNat_natCast]
  exact Line.digit_code hArgument

end

/- A line at the counter decodes to its instruction. -/
theorem decodes
    (hBears : c.Bears l) :
    c.Decodes l.op where
  counter := by
    have hFits := hBears.fits
    omega
  sign := by
    rw [hBears.word_eq]
    exact Int.natCast_nonneg _
  opcode := by
    rw [op?, number, hBears.word_eq, Int.toNat_natCast]
    exact l.ofNumber?_code
  modes := by
    intro p hp
    rw [← l.length_arguments] at hp
    have hArgument := List.getElem?_eq_getElem hp
    rw [hBears.modeDigit_eq hArgument]
    exact Argument.digit_le_one _
  parameters := hBears.fits

/- An argument is read as what it stands for. -/
theorem operand
    (hBears : c.Bears l)
    {p : Nat}
    {a : Argument}
    {x : Int}
    (hArgument : l.arguments[p]? = some a)
    (hValue : a.value? c.memory = some x) :
    c.Operand p x := by
  have hDigit := hBears.modeDigit_eq hArgument
  have hRaw := hBears.raw_eq hArgument
  cases a with
  | cell address =>
      refine Operand.position hDigit ?_
      rw [hRaw, cell?, Argument.word,
        if_pos (Int.natCast_nonneg address),
        Int.toNat_natCast]
      exact hValue
  | literal n =>
      have hSame : n = x := Option.some.inj hValue
      rw [← hSame, show n = c.raw p from hRaw.symm]
      exact Operand.immediate hDigit

/- A target is written to, if it is a cell. -/
theorem target
    (hBears : c.Bears l)
    {p address : Nat}
    {x : Int}
    (hArgument : l.arguments[p]? = some (.cell address))
    (hCell : c.memory[address]? = some x) :
    c.Target p address :=
  Target.position (hBears.modeDigit_eq hArgument)
    (hBears.raw_eq hArgument)
    (List.getElem?_eq_some_iff.mp hCell).1

------------------------------------------------------------
-- Executing Lines
------------------------------------------------------------

section

variable {x y n : Int}

/- The value of a function is put into its target. -/
theorem calculate
    (f : Calculation)
    (a b : Argument)
    (address : Nat)
    (hBears : c.Bears (.calculate f a b address))
    (hFirst : a.value? c.memory = some x)
    (hSecond : b.value? c.memory = some y)
    (hTarget : c.memory[address]? = some n) :
    c.Step
      { c with
        memory := c.memory.set address (f.apply x y)
        pc := c.pc + 4 } :=
  Step.calculate hBears.decodes (hBears.operand rfl hFirst)
    (hBears.operand rfl hSecond) (hBears.target rfl hTarget)

/- The next input is put into the target. -/
theorem input
    {rest : List Int}
    (address : Nat)
    (hBears : c.Bears (.input address))
    (hInputs : c.inputs = x :: rest)
    (hTarget : c.memory[address]? = some n) :
    c.Step
      { c with
        memory := c.memory.set address x
        pc := c.pc + 2
        inputs := rest
        taken := c.taken + 1 } :=
  Step.input hBears.decodes hInputs
    (hBears.target rfl hTarget)

/- What the argument stands for is put out. -/
theorem output
    (a : Argument)
    (hBears : c.Bears (.output a))
    (hFirst : a.value? c.memory = some x) :
    c.Step
      { c with
        pc := c.pc + 2
        outputs := c.outputs ++ [x] } :=
  Step.output hBears.decodes (hBears.operand rfl hFirst)

/- A jump is made to a cell if its condition holds. -/
theorem jump
    (t : Condition)
    (a b : Argument)
    (address : Nat)
    (hBears : c.Bears (.jump t a b))
    (hFirst : a.value? c.memory = some x)
    (hSecond : b.value? c.memory = some (address : Int))
    (hCell : c.memory[address]? = some n)
    (hHolds : t.Holds x) :
    c.Step { c with pc := address } :=
  Step.jump hBears.decodes (hBears.operand rfl hFirst)
    hHolds (hBears.operand rfl hSecond)
    (List.getElem?_eq_some_iff.mp hCell).1

/- A jump is passed by if its condition fails. -/
theorem pass
    (t : Condition)
    (a b : Argument)
    (hBears : c.Bears (.jump t a b))
    (hFirst : a.value? c.memory = some x)
    (hFails : ¬ t.Holds x) :
    c.Step { c with pc := c.pc + 3 } :=
  Step.pass hBears.decodes (hBears.operand rfl hFirst)
    hFails

theorem halts
    (hBears : c.Bears .halt) :
    c.Halts :=
  hBears.decodes

end

end Bears

------------------------------------------------------------
-- Steps In A Row
------------------------------------------------------------

/- Some number of steps is a chain of single steps. -/
theorem exists_steps_iff
    (c c' : Config) :
    (∃ n, Steps n c c') ↔
      Relation.ReflTransGen Step c c' := by
  constructor
  · intro hParts
    rcases hParts with ⟨n, hSteps⟩
    induction hSteps with
    | here c => exact Relation.ReflTransGen.refl
    | next hStep _ ih =>
        exact Relation.ReflTransGen.head hStep ih
  · intro hChain
    induction hChain using
        Relation.ReflTransGen.head_induction_on with
    | refl => exact ⟨0, Steps.here c'⟩
    | head hStep _ ih =>
        rcases ih with ⟨n, hSteps⟩
        exact ⟨n + 1, Steps.next hStep hSteps⟩

end Config

end Semantics

end IntcodeMachine
