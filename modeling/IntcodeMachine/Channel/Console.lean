import IntcodeMachine.Numeral.Reader
import IntcodeMachine.Text.Lines
import IntcodeMachine.Text.Quoted

/-
  This file defines how a console reads an integer.

  A console prompts for a line, strips it and takes it for
  an integer. A line that holds none is rejected, and the
  console prompts again, until a line is accepted or there
  are no lines left.

  Key definitions include:
    * `Console.Reading`
    * `Console.read`
    * `Console.Reading.prompts`
-/

------------------------------------------------------------
-- Reading Integers
------------------------------------------------------------

namespace IntcodeMachine

namespace Console

/- The prompt of a console, unless another is given. -/
def standardPrompt : String := "Input > "

/- What a console prints before an integer. -/
def standardPreface : String := "Output: "

/- What a console has made of its lines. -/
structure Reading where
  /- The integer of the accepted line, if there was one. -/
  value : Option Int
  /- The rejected lines before it, stripped. -/
  rejected : List String
  /- The lines that are left. -/
  rest : List String
deriving DecidableEq, Repr

/- Read lines up to the first that holds an integer. -/
def read : List String → Reading
| [] => ⟨none, [], []⟩
| line :: rest =>
    let text := Text.strip line.toList
    match Numeral.readTyped text with
    | .ok n => ⟨some n, [], rest⟩
    | .error _ =>
        let more := read rest
        ⟨more.value, String.ofList text :: more.rejected,
          more.rest⟩

/-
  How often the console prompted: once for each line that it
  read, and once more if it found no line left.
-/
def Reading.prompts (r : Reading) : Nat :=
  r.rejected.length + 1

/- The warning about a rejected line. -/
def warning (text : String) : String :=
  "Not an integer: " ++ Text.quote text ++ ", try again"

end Console

end IntcodeMachine
