import IntcodeMachine.Fault

/-
  This file describes the language of the machine by rules,
  without a table, operations or channels.

  A configuration is a memory, a counter, the inputs that
  are left, how many were taken, and the outputs. Each rule
  says when an instruction can be executed and what it makes
  of the configuration. A configuration to which no rule
  applies, and which does not halt, is stuck.

  Main declarations:
    * `Op`
    * `Config`
    * `Config.Step`
    * `Config.Halts`
    * `Config.Stuck`
    * `Config.Steps`
-/

------------------------------------------------------------
-- Instructions
------------------------------------------------------------

namespace IntcodeMachine

namespace Semantics

/- A function of two operands. -/
inductive Calculation where
| add
| multiply
| lessThan
| equals
deriving DecidableEq, Repr

/- The value of a function; a truth value is one or zero. -/
def Calculation.apply :
    Calculation → Int → Int → Int
| .add, a, b => a + b
| .multiply, a, b => a * b
| .lessThan, a, b => if a < b then 1 else 0
| .equals, a, b => if a = b then 1 else 0

/- What a jump asks of its first operand. -/
inductive Condition where
| nonzero
| zero
deriving DecidableEq, Repr

/- The operand meets the condition. -/
def Condition.Holds : Condition → Int → Prop
| .nonzero, a => a ≠ 0
| .zero, a => a = 0

instance (t : Condition) (a : Int) : Decidable (t.Holds a) := by
  cases t <;> unfold Condition.Holds <;> infer_instance

/- What an instruction does. -/
inductive Op where
| calculate (f : Calculation)
| jump (t : Condition)
| input
| output
| halt
deriving DecidableEq, Repr

namespace Op

/- The instruction that a number stands for. -/
def ofNumber? : Nat → Option Op
| 1 => some (.calculate .add)
| 2 => some (.calculate .multiply)
| 3 => some .input
| 4 => some .output
| 5 => some (.jump .nonzero)
| 6 => some (.jump .zero)
| 7 => some (.calculate .lessThan)
| 8 => some (.calculate .equals)
| 99 => some .halt
| _ => none

/- The number of parameters of an instruction. -/
def arity : Op → Nat
| .calculate _ => 3
| .jump _ => 2
| .input => 1
| .output => 1
| .halt => 0

end Op

------------------------------------------------------------
-- Configurations
------------------------------------------------------------

/- A program in the middle of its execution. -/
structure Config where
  memory : List Int
  /- The counter, the address of the next instruction. -/
  pc : Nat
  /- The inputs that are left. -/
  inputs : List Int
  /- How many inputs were taken. -/
  taken : Nat
  outputs : List Int
deriving DecidableEq, Repr

namespace Config

/- A program at its start, with all its inputs left. -/
def initial
    (program inputs : List Int) : Config :=
  ⟨program, 0, inputs, 0, []⟩

/- The word at the counter. -/
def word (c : Config) : Int :=
  c.memory.getD c.pc 0

/- The two low decimal digits of the word. -/
def number (c : Config) : Nat :=
  c.word.toNat % 100

/- The instruction that the word stands for. -/
def op? (c : Config) : Option Op :=
  Op.ofNumber? c.number

/- The decimal digit of the word for a parameter's mode. -/
def modeDigit
    (c : Config)
    (p : Nat) : Nat :=
  c.word.toNat / Nat.pow 10 (p + 2) % 10

/- The word of a parameter. -/
def raw
    (c : Config)
    (p : Nat) : Int :=
  c.memory.getD (c.pc + 1 + p) 0

/- The integer at an address, if the memory has it. -/
def cell?
    (c : Config)
    (address : Int) : Option Int :=
  if 0 ≤ address then c.memory[address.toNat]? else none

/-
  The word at the counter is an instruction, complete with
  its parameters, and their modes are known.
-/
structure Decodes
    (c : Config)
    (op : Op) : Prop where
  counter : c.pc < c.memory.length
  sign : 0 ≤ c.word
  opcode : c.op? = some op
  modes : ∀ p < op.arity, c.modeDigit p ≤ 1
  parameters : c.pc + op.arity < c.memory.length

/- A parameter stands for an operand. -/
inductive Operand
    (c : Config)
    (p : Nat) : Int → Prop where
| position
    {v : Int}
    (hMode : c.modeDigit p = 0)
    (hCell : c.cell? (c.raw p) = some v) :
    Operand c p v
| immediate
    (hMode : c.modeDigit p = 1) :
    Operand c p (c.raw p)

/- A parameter names a cell to write to. -/
inductive Target
    (c : Config)
    (p : Nat) : Nat → Prop where
| position
    {address : Nat}
    (hMode : c.modeDigit p = 0)
    (hRaw : c.raw p = address)
    (hCell : address < c.memory.length) :
    Target c p address

------------------------------------------------------------
-- Rules
------------------------------------------------------------

/- One instruction takes a configuration to another. -/
inductive Step
    (c : Config) : Config → Prop where
| calculate
    {f : Calculation}
    {a b : Int}
    {address : Nat}
    (hDecodes : c.Decodes (.calculate f))
    (hFirst : c.Operand 0 a)
    (hSecond : c.Operand 1 b)
    (hTarget : c.Target 2 address) :
    Step c
      { c with
        memory := c.memory.set address (f.apply a b)
        pc := c.pc + 4 }
| input
    {n : Int}
    {rest : List Int}
    {address : Nat}
    (hDecodes : c.Decodes .input)
    (hInputs : c.inputs = n :: rest)
    (hTarget : c.Target 0 address) :
    Step c
      { c with
        memory := c.memory.set address n
        pc := c.pc + 2
        inputs := rest
        taken := c.taken + 1 }
| output
    {a : Int}
    (hDecodes : c.Decodes .output)
    (hFirst : c.Operand 0 a) :
    Step c
      { c with
        pc := c.pc + 2
        outputs := c.outputs ++ [a] }
| jump
    {t : Condition}
    {a : Int}
    {address : Nat}
    (hDecodes : c.Decodes (.jump t))
    (hFirst : c.Operand 0 a)
    (hHolds : t.Holds a)
    (hSecond : c.Operand 1 address)
    (hCell : address < c.memory.length) :
    Step c { c with pc := address }
| pass
    {t : Condition}
    {a : Int}
    (hDecodes : c.Decodes (.jump t))
    (hFirst : c.Operand 0 a)
    (hFails : ¬ t.Holds a) :
    Step c { c with pc := c.pc + 3 }

/- The instruction at the counter halts the program. -/
def Halts (c : Config) : Prop :=
  c.Decodes .halt

/- No rule applies, and the program does not halt. -/
def Stuck (c : Config) : Prop :=
  ¬ c.Halts ∧ ∀ c', ¬ c.Step c'

/- So many instructions take one configuration to another. -/
inductive Steps : Nat → Config → Config → Prop where
| here (c : Config) : Steps 0 c c
| next
    {n : Nat}
    {c c₁ c' : Config}
    (hStep : c.Step c₁)
    (hRest : Steps n c₁ c') :
    Steps (n + 1) c c'

end Config

end Semantics

end IntcodeMachine
