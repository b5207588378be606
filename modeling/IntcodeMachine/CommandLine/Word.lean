import IntcodeMachine.Text.DecimalDigit

/-
  This file defines the switches of the command line, and
  what its words are.

  A word is a switch if it begins with a dash and is neither
  a dash alone nor a negative number, and holds no blank
  unless it names a switch. Long switches may be cut short
  as long as one switch remains that they can stand for, and
  a value may follow an equals sign. All words after a
  double dash are plain.

  Key definitions include:
    * `CommandLine.Refusal`
    * `CommandLine.Switch`
    * `CommandLine.Word`
    * `CommandLine.Word.classify`
    * `CommandLine.Word.classifyAll`
-/

------------------------------------------------------------
-- Refusals
------------------------------------------------------------

namespace IntcodeMachine

namespace CommandLine

/- Why the words of the command line are not obeyed. -/
inductive Refusal where
/- The words cannot be understood. -/
| usage
/- The words ask for the version only. -/
| version
/- The words ask for help only. -/
| help
deriving DecidableEq, Repr

/- The exit code of a refusal. -/
def Refusal.exitCode : Refusal → Nat
| .usage => 2
| .version => 0
| .help => 0

/- The version, as it is printed. -/
def versionLine : String := "intcodevm 0.1.0"

/- What a refusal prints on standard output. -/
def Refusal.output : Refusal → String
| .version => versionLine ++ "\n"
| _ => ""

------------------------------------------------------------
-- Switches
------------------------------------------------------------

/- The switches of the command line. -/
inductive Switch where
| help
| text
| input
| delimiter
| trace
| dump
| verbose
| quiet
| logFile
| version
deriving DecidableEq, Repr

namespace Switch

/- The names of the switches. -/
def names : List (String × Switch) :=
  [("-h", .help), ("--help", .help), ("--source", .text),
   ("-s", .text), ("--input", .input), ("-i", .input),
   ("--delimiter", .delimiter), ("--trace", .trace),
   ("--dump", .dump), ("--verbose", .verbose),
   ("-v", .verbose), ("--quiet", .quiet), ("-q", .quiet),
   ("--log-file", .logFile), ("--version", .version)]

/- The switch of a full name. -/
def ofName? (name : String) : Option Switch :=
  names.lookup name

/- The switch of a single letter. -/
def ofLetter? (c : Char) : Option Switch :=
  ofName? (String.ofList ['-', c])

/- The switches that the start of a long name may mean. -/
def ofStart (start : List Char) : List Switch :=
  (names.filter fun n => start.isPrefixOf n.1.toList).map
    Prod.snd

/- The switch needs a value. -/
def takesValue : Switch → Bool
| .input => true
| .delimiter => true
| .logFile => true
| _ => false

end Switch

------------------------------------------------------------
-- Words
------------------------------------------------------------

/- What a word holds beside the name of its switch. -/
inductive Attachment where
| nothing
/- A text behind an equals sign. -/
| assigned (value : List Char)
/- A text right behind a letter. -/
| joined (value : List Char)
deriving DecidableEq, Repr

/- One word of the command line. -/
inductive Word where
/- A word that is no switch. -/
| plain (text : String)
/- The double dash. -/
| divider
| switch (s : Switch) (a : Attachment)
/- A switch that does not exist. -/
| unknown
deriving DecidableEq, Repr

namespace Word

/- A digit of any script. -/
def isDigit (c : Char) : Bool :=
  (Text.digitValue? c).isSome

/- A text of digits, with one point before the last ones. -/
def isUnsignedNumber (text : List Char) : Bool :=
  let whole := text.takeWhile isDigit
  match text.dropWhile isDigit with
  | [] => !whole.isEmpty
  | '.' :: part => !part.isEmpty && part.all isDigit
  | _ => false

/- A text that looks like a negative number. -/
def isNegativeNumber : List Char → Bool
| '-' :: text =>
    isUnsignedNumber text ||
      (text.getLast? = some '\n' &&
        isUnsignedNumber text.dropLast)
| _ => false

/- The parts of a word around its first equals sign. -/
def assignment?
    (word : List Char) : Option (List Char × List Char) :=
  match word.dropWhile (· ≠ '=') with
  | [] => none
  | _ :: value => some (word.takeWhile (· ≠ '='), value)

/- What a word is that is not the name of a switch. -/
def classifyRest (word : List Char) : Word :=
  if isNegativeNumber word || word.contains ' ' then
    .plain (String.ofList word)
  else .unknown

/- A long word that is not the full name of a switch. -/
def classifyLong
    (word : List Char) : Except Refusal Word :=
  let (start, a) :=
    match assignment? word with
    | some (name, value) => (name, Attachment.assigned value)
    | none => (word, .nothing)
  match Switch.ofStart start with
  | [] => .ok (classifyRest word)
  | [s] => .ok (.switch s a)
  | _ => .error .usage

/- A short word that is not the full name of a switch. -/
def classifyShort
    (word : List Char) : Word :=
  match word with
  | _ :: c :: value =>
      match Switch.ofLetter? c with
      | some s => .switch s (.joined value)
      | none => classifyRest word
  | _ => classifyRest word

/- The word is the name of a switch, with a value or not. -/
def named?
    (word : List Char) : Option Word :=
  match Switch.ofName? (String.ofList word) with
  | some s => some (.switch s .nothing)
  | none =>
      match assignment? word with
      | none => none
      | some (name, value) =>
          (Switch.ofName? (String.ofList name)).map fun s =>
            .switch s (.assigned value)

/- What a word is, before any double dash. -/
def classify
    (word : String) : Except Refusal Word :=
  match word.toList with
  | '-' :: rest =>
      match named? word.toList, rest with
      | some w, _ => .ok w
      | none, [] => .ok (.plain word)
      | none, '-' :: _ => classifyLong word.toList
      | none, _ => .ok (classifyShort word.toList)
  | _ => .ok (.plain word)

/- What the words are. -/
def classifyAll :
    List String → Except Refusal (List Word)
| [] => .ok []
| word :: rest =>
    if word = "--" then
      .ok (.divider :: rest.map .plain)
    else
      match classify word with
      | .error r => .error r
      | .ok w =>
          match classifyAll rest with
          | .error r => .error r
          | .ok ws => .ok (w :: ws)

end Word

end CommandLine

end IntcodeMachine
