import IntcodeMachine.Failure

/-
  This file defines the instructions of the machine and how
  they are packed into words.

  The two low decimal digits of a word are the opcode. Each
  digit above them is the mode of one parameter, the first
  parameter having the lowest. A digit that the word does
  not have is a zero. Digits above those of the parameters
  are ignored.

  Key definitions include:
    * `Opcode`
    * `Mode`
    * `Parameter`
    * `Instruction`
    * `Instruction.decode`
    * `Instruction.bind`
-/

------------------------------------------------------------
-- Opcodes And Modes
------------------------------------------------------------

namespace IntcodeMachine

/- The number of an operation. -/
abbrev Opcode := Fin 100

/- Numerals stand for opcodes. -/
instance Opcode.neZero :
    @NeZero Nat (@Zero.ofOfNat0 Nat (instOfNatNat 0)) 100 :=
  ⟨by decide⟩

/- How a parameter stands for its operand. -/
inductive Mode where
/- The parameter is the address of the operand. -/
| position
/- The parameter is the operand. -/
| immediate
deriving DecidableEq, Repr

namespace Mode

/- The mode that a digit stands for. -/
def ofDigit? : Nat → Option Mode
| 0 => some .position
| 1 => some .immediate
| _ => none

/- The digit that stands for a mode. -/
def digit : Mode → Nat
| .position => 0
| .immediate => 1

end Mode

------------------------------------------------------------
-- Parameters
------------------------------------------------------------

/- One parameter of an instruction. -/
structure Parameter where
  /- The word on the tape. -/
  raw : Int
  /- The place among the parameters, from zero. -/
  position : Nat
  mode : Mode
deriving DecidableEq, Repr

/- A parameter as it is shown in a trace. -/
def Parameter.render (p : Parameter) : String :=
  match p.mode with
  | .immediate => "#" ++ Numeral.render p.raw
  | .position => "[" ++ Numeral.render p.raw ++ "]"

------------------------------------------------------------
-- Words
------------------------------------------------------------

/- The opcode of a word. Words below zero have none. -/
def opcodeOf
    (word : Int)
    (address : Option Int) : Except Failure Opcode :=
  if word < 0 then
    .error (Fault.unknownOpcode word address).raised
  else .ok (Fin.ofNat 100 word.toNat)

/-
  The mode digit of a word for a parameter. The places -2
  and -1 give the digits of the opcode.
-/
def modeDigit
    (word : Int)
    (position : Int) : Nat :=
  word.natAbs / Nat.pow 10 (position + 2).toNat % 10

/- The mode of a parameter of the word. -/
def parameterMode
    (word : Int)
    (position : Int)
    (address : Option Int) : Except Failure Mode :=
  let digit := modeDigit word position
  match Mode.ofDigit? digit with
  | some mode => .ok mode
  | none =>
      .error
        (Fault.unknownMode digit position address).raised

/- The modes of so many parameters, from a place on. -/
def modesFrom
    (word address : Int) :
    Nat → Nat → Except Failure (List Mode)
| _, 0 => .ok []
| position, count + 1 =>
    match parameterMode word position (some address) with
    | .error e => .error e
    | .ok mode =>
        match modesFrom word address (position + 1) count with
        | .error e => .error e
        | .ok modes => .ok (mode :: modes)

------------------------------------------------------------
-- Instructions
------------------------------------------------------------

/- A word on the tape, decoded. -/
structure Instruction where
  address : Int
  word : Int
  opcode : Opcode
  modes : List Mode
deriving DecidableEq, Repr

namespace Instruction

/- Decode a word that has so many parameters. -/
def decode
    (word address : Int)
    (arity : Nat) : Except Failure Instruction :=
  match opcodeOf word (some address) with
  | .error e => .error e
  | .ok opcode =>
      match modesFrom word address 0 arity with
      | .error e => .error e
      | .ok modes => .ok ⟨address, word, opcode, modes⟩

/- The number of parameters. -/
def arity (i : Instruction) : Nat :=
  i.modes.length

/- The number of words, the opcode's included. -/
def length (i : Instruction) : Nat :=
  i.arity + 1

/- The addresses of the parameters. -/
def operandAddresses (i : Instruction) : List Int :=
  (List.range i.arity).map fun (k : Nat) =>
    i.address + 1 + k

/- Parameters from words and modes, from a place on. -/
def bindFrom :
    Nat → List Int → List Mode → List Parameter
| position, raw :: raws, mode :: modes =>
    ⟨raw, position, mode⟩ :: bindFrom (position + 1) raws modes
| _, _, _ => []

/- The parameters made of the given words. -/
def bind
    (i : Instruction)
    (raws : List Int) : List Parameter :=
  bindFrom 0 raws i.modes

end Instruction

end IntcodeMachine
