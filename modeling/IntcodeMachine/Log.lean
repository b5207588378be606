/-
  This file defines the log: messages, each with a level and
  the part of the library that it comes from.

  Key definitions include:
    * `Log.Level`
    * `Log.Origin`
    * `Log.Record`
    * `Log.Record.line`
    * `Log.Record.entry`
-/

------------------------------------------------------------
-- Records
------------------------------------------------------------

namespace IntcodeMachine

namespace Log

/- How important a message is. -/
inductive Level where
| debug
| info
| warning
| error
deriving DecidableEq, Repr

namespace Level

/- The rank of a level, the least important first. -/
def rank : Level → Nat
| .debug => 0
| .info => 1
| .warning => 2
| .error => 3

/- The name of a level. -/
def name : Level → String
| .debug => "DEBUG"
| .info => "INFO"
| .warning => "WARNING"
| .error => "ERROR"

end Level

/- The part of the library that a message comes from. -/
inductive Origin where
| channels
| operations
| machine
| commandLine
deriving DecidableEq, Repr

/- The name under which a part of the library logs. -/
def Origin.name : Origin → String
| .channels => "intcode.channels"
| .operations => "intcode.opcodes"
| .machine => "intcode.interpreter"
| .commandLine => "intcodevm"

/- One message of the log. -/
structure Record where
  level : Level
  origin : Origin
  message : String
deriving DecidableEq, Repr

namespace Record

/- A record as it is shown to a user. -/
def line (r : Record) : String :=
  r.level.name ++ ": " ++ r.message ++ "\n"

/- A record as it is kept in a file. -/
def entry (r : Record) : String :=
  r.origin.name ++ " - " ++ r.level.name ++ " - " ++
    r.message ++ "\n"

end Record

end Log

end IntcodeMachine
