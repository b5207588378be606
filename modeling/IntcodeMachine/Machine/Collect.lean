import IntcodeMachine.Machine.Run

/-
  This file defines a run of a whole program that collects
  what the program puts out.

  The program runs on a copy of a table whose output goes to
  a fresh collector. If inputs are given, its input comes
  from them.

  Key definitions include:
    * `Collect.prepare`
    * `Collect.run`
-/

------------------------------------------------------------
-- Preparation
------------------------------------------------------------

namespace IntcodeMachine

namespace Collect

/- Put an operation under an opcode, and log it. -/
def install
    (t : Table)
    (h : Host)
    (k : Opcode)
    (o : Operation) : Table × Host :=
  (t.set k o, h.noteAll (t.overrideNotes k o))

/- The table with its input taken from given values. -/
def withInputs
    (t : Table)
    (h : Host) :
    Option (List Value) → Except Failure Table × Host
| none => (.ok t, h)
| some values =>
    match Script.ofValues values with
    | .error e => (.error e, h)
    | .ok s =>
        let (slot, h') := h.addScript s
        let (t', h'') :=
          install t h' Table.inputOpcode
            (.input (.script slot) Operation.inputName)
        (.ok t', h'')

/- A loaded machine, and the slot of its collector. -/
structure Prepared where
  machine : Machine
  collector : Nat

/- Load a program that puts out to a fresh collector. -/
def prepare
    (p : Program)
    (inputs : Option (List Value))
    (t : Table)
    (h : Host) : Except Failure Prepared × Host :=
  let (slot, h₀) := h.addCollector
  match withInputs t h₀ inputs with
  | (.error e, h₁) => (.error e, h₁)
  | (.ok t₁, h₁) =>
      let (t₂, h₂) :=
        install t₁ h₁ Table.outputOpcode
          (.output (.collector slot) Operation.outputName)
      match Machine.load p Tape.standardDelimiter t₂ with
      | .error e => (.error e, h₂)
      | .ok m => (.ok ⟨m, slot⟩, h₂)

------------------------------------------------------------
-- Running
------------------------------------------------------------

/- The machine after a run, and what it has put out. -/
structure Result where
  machine : Machine
  outputs : List Int

/-
  Run a program and collect its outputs, within a budget of
  instructions.
-/
def run
    (budget : Nat)
    (p : Program)
    (inputs : Option (List Value))
    (t : Table)
    (h : Host) : Option (Except Failure Result × Host) :=
  match prepare p inputs t h with
  | (.error e, h') => some (.error e, h')
  | (.ok ready, h') =>
      match Rig.run budget ⟨ready.machine, h'⟩ with
      | none => none
      | some (.error e, r) => some (.error e, r.host)
      | some (.ok _, r) =>
          some
            (.ok
              ⟨r.machine, r.host.collected ready.collector⟩,
              r.host)

end Collect

end IntcodeMachine
